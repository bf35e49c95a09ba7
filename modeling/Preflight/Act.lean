import Preflight.Log

/-!
# Acts on a world

Whatever the library does beyond computing, it does to a *world*: a value that
holds the state of what is outside, such as a peer or a directory of files. An
act turns a world into a result, a new world and the events noted on the way. An
act that fails returns its error as a value, so the world it leaves behind is
there in every case.

Worlds are combined as pairs. `onFirst` and `onSecond` let an act see one half,
and `within` and `carrying` add a value to the world for the time of one act.
-/

namespace Preflight

/-- What an act leaves behind. -/
structure Outcome (ω α : Type) where
  value : α
  world : ω
  events : List Event

/-- An act on a world `ω` with a result of type `α`. -/
def Act (ω α : Type) : Type := ω → Outcome ω α

namespace Act

variable {ω τ κ α β : Type}

/-- Do an act in a world. -/
def run (act : Act ω α) (world : ω) : Outcome ω α := act world

instance : Monad (Act ω) where
  pure a := fun world => ⟨a, world, []⟩
  bind act next := fun world =>
    let first := act.run world
    let second := (next first.value).run first.world
    ⟨second.value, second.world, first.events ++ second.events⟩

/-- Note an event. -/
def note (event : Event) : Act ω Unit := fun world => ⟨(), world, [event]⟩

/-- The world as it is. -/
def look : Act ω ω := fun world => ⟨world, world, []⟩

/-- Change the world, and return something about the change. -/
def change (f : ω → α × ω) : Act ω α := fun world =>
  let (a, world) := f world
  ⟨a, world, []⟩

/-- An act on the first half of a world. -/
def onFirst (act : Act ω α) : Act (ω × τ) α := fun (world, other) =>
  let done := act.run world
  ⟨done.value, (done.world, other), done.events⟩

/-- An act on the second half of a world. -/
def onSecond (act : Act τ α) : Act (ω × τ) α := fun (other, world) =>
  let done := act.run world
  ⟨done.value, (other, done.world), done.events⟩

/-- An act on a world joined by a value for the time of the act. -/
def within (value : κ) (act : Act (κ × ω) α) : Act ω (α × κ) := fun world =>
  let done := act.run (value, world)
  ⟨(done.value, done.world.1), done.world.2, done.events⟩

/-- An act on the first half of a world, joined by a value for the time of the act. -/
def carrying (value : κ) (act : Act ((κ × ω) × τ) α) : Act (ω × τ) (α × κ) :=
  fun (world, other) =>
    let done := act.run ((value, world), other)
    ⟨(done.value, done.world.1.1), (done.world.1.2, done.world.2), done.events⟩

@[simp] theorem run_pure (a : α) (world : ω) :
    (pure a : Act ω α).run world = ⟨a, world, []⟩ := rfl

@[simp] theorem run_bind (act : Act ω α) (next : α → Act ω β) (world : ω) :
    (act >>= next).run world =
      ⟨((next (act.run world).value).run (act.run world).world).value,
       ((next (act.run world).value).run (act.run world).world).world,
       (act.run world).events ++
         ((next (act.run world).value).run (act.run world).world).events⟩ := rfl

@[simp] theorem run_note (event : Event) (world : ω) :
    (note event).run world = ⟨(), world, [event]⟩ := rfl

@[simp] theorem run_look (world : ω) : look.run world = ⟨world, world, []⟩ := rfl

@[simp] theorem run_onFirst (act : Act ω α) (world : ω) (other : τ) :
    (onFirst act).run (world, other) =
      ⟨(act.run world).value, ((act.run world).world, other), (act.run world).events⟩ := rfl

theorem bind_assoc' {γ : Type} (act : Act ω α) (f : α → Act ω β) (g : β → Act ω γ) :
    act >>= f >>= g = act >>= fun a => f a >>= g := by
  funext world
  exact congrArg (Outcome.mk _ _) (List.append_assoc ..)

theorem id_map' (act : Act ω α) : id <$> act = act := by
  funext world
  exact congrArg (Outcome.mk _ _) (List.append_nil _)

instance : LawfulMonad (Act ω) :=
  LawfulMonad.mk' (Act ω) id_map' (fun _ _ => rfl) bind_assoc'

end Act

end Preflight
