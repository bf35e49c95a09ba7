import Preflight.Proofs.Granted
import Preflight.Proofs.Using

/-!
# What a talk does, whatever comes of it

A talk may fail at any of its requests, and it may leave a link for a new one. Three
things can be relied on all the same. It makes requests on no other links than the
one that was kept and those that it opens itself; the only statement that it sends
is its own; and the link that it leaves behind is one of these links again. They are
kept together (`Conduct`), since they are needed together to put one talk behind
another: the link that the first one leaves is the one that the second one finds.

Links are numbered as they are opened, so links that were opened by a talk are told
from older ones by their numbers.

## Main results

* `BoltPool.conducts_verify`, `BoltPool.conducts_rowCount` — the conduct of the talks.
* `GraphConnection.conduct_openSession` — that of opening a session, which finds no
  link.
-/

namespace Preflight

variable {α β : Type}

/-- If the request has a statement, it is this one. -/
def BoltRequest.States (statement : String) : BoltRequest → Prop
  | .statement text _ => text = statement
  | _ => True

namespace BoltSight

/-- The number of the link that was opened or used. -/
def link : BoltSight → Nat
  | opening link _ => link
  | request link _ _ => link

/-- If a statement was sent, it was this one. -/
def States (statement : String) : BoltSight → Prop
  | opening .. => True
  | request _ sent _ => sent.States statement

end BoltSight

/-- What is done with a peer by one who finds the link `kept` and leaves the link `left`. -/
structure Conduct (statement : String) (kept : Option BoltLink) (net : BoltNet)
    (left : Option BoltLink) (after : BoltNet) (sights : List BoltSight) : Prop where
  nowMs : after.nowMs = net.nowMs
  links : net.links ≤ after.links
  seen : after.seen = net.seen ++ sights
  own : ∀ sight ∈ sights, (∃ link ∈ kept, link.number = sight.link) ∨ net.links ≤ sight.link
  states : ∀ sight ∈ sights, sight.States statement
  left : ∀ link ∈ left, (∃ old ∈ kept, old.number = link.number) ∨
    net.links ≤ link.number ∧ link.number < after.links

namespace Conduct

variable {statement : String} {kept middle left : Option BoltLink} {net between after : BoltNet}
  {sights later : List BoltSight}

theorem refl (statement : String) (kept : Option BoltLink) (net : BoltNet) :
    Conduct statement kept net kept net [] where
  nowMs := rfl
  links := Nat.le_refl _
  seen := (List.append_nil _).symm
  own := nofun
  states := nofun
  left := fun link hlink => .inl ⟨link, hlink, rfl⟩

theorem trans (h : Conduct statement kept net middle between sights)
    (hlater : Conduct statement middle between left after later) :
    Conduct statement kept net left after (sights ++ later) where
  nowMs := hlater.nowMs.trans h.nowMs
  links := Nat.le_trans h.links hlater.links
  seen := by rw [hlater.seen, h.seen, List.append_assoc]
  own := by
    intro sight hsight
    rcases List.mem_append.mp hsight with hsight | hsight
    · exact h.own sight hsight
    · rcases hlater.own sight hsight with ⟨link, hlink, hnumber⟩ | hnew
      · rw [← hnumber]
        rcases h.left link hlink with hold | ⟨hopened, -⟩
        · exact .inl hold
        · exact .inr hopened
      · exact .inr (Nat.le_trans h.links hnew)
  states := by
    intro sight hsight
    rcases List.mem_append.mp hsight with hsight | hsight
    · exact h.states sight hsight
    · exact hlater.states sight hsight
  left := by
    intro link hlink
    rcases hlater.left link hlink with ⟨old, hold, hnumber⟩ | ⟨hnew, hopened⟩
    · rw [← hnumber]
      rcases h.left old hold with holder | ⟨hopened, hbelow⟩
      · exact .inl holder
      · exact .inr ⟨hopened, Nat.lt_of_lt_of_le hbelow hlater.links⟩
    · exact .inr ⟨Nat.le_trans h.links hnew, hopened⟩

/-- Whoever finds no link makes use of new ones only. -/
theorem own_le (h : Conduct statement none net left after sights) :
    ∀ sight ∈ sights, net.links ≤ sight.link := by
  intro sight hsight
  rcases h.own sight hsight with ⟨link, hlink, -⟩ | hnew
  · cases hlink
  · exact hnew

/-- What follows on it makes use of new links only, too. -/
theorem own_le_of_left {other : String} (h : Conduct statement none net middle between sights)
    (hlater : Conduct other middle between left after later) :
    ∀ sight ∈ later, net.links ≤ sight.link := by
  intro sight hsight
  rcases hlater.own sight hsight with ⟨link, hlink, hnumber⟩ | hnew
  · rw [← hnumber]
    rcases h.left link hlink with ⟨old, hold, -⟩ | ⟨hopened, -⟩
    · cases hold
    · exact hopened
  · exact Nat.le_trans h.links hnew

/-- Whoever finds a link that was opened leaves one that was opened. -/
theorem left_lt (h : Conduct statement kept net left after sights)
    (hkept : ∀ link ∈ kept, link.number < net.links) : ∀ link ∈ left, link.number < after.links := by
  intro link hlink
  rcases h.left link hlink with ⟨old, hold, hnumber⟩ | ⟨-, hopened⟩
  · exact hnumber ▸ Nat.lt_of_lt_of_le (hkept old hold) h.links
  · exact hopened

end Conduct

/-! ## Acts on a pool -/

/-- The act conducts itself well in every world; the only statement is `statement`. -/
def Act.Conducts (statement : String) (act : Act (BoltPool × BoltNet) α) : Prop :=
  ∀ world, ∃ sights, Conduct statement world.1.link world.2
    (act.run world).world.1.link (act.run world).world.2 sights

namespace Act

variable {statement : String}

theorem conducts_pure (a : α) : Conducts statement (pure a) :=
  fun world => ⟨[], .refl statement world.1.link world.2⟩

theorem conducts_look : Conducts statement look :=
  fun world => ⟨[], .refl statement world.1.link world.2⟩

theorem Conducts.bind {act : Act (BoltPool × BoltNet) α} {next : α → Act (BoltPool × BoltNet) β}
    (h : Conducts statement act) (hnext : ∀ a, Conducts statement (next a)) :
    Conducts statement (act >>= next) := by
  intro world
  obtain ⟨sights, hfirst⟩ := h world
  obtain ⟨later, hlater⟩ := hnext (act.run world).value (act.run world).world
  exact ⟨sights ++ later, hfirst.trans hlater⟩

end Act

/-- The talk conducts itself well. -/
def Talk.Conducts (statement : String) (talk : Talk α) : Prop :=
  Act.Conducts statement talk.run

namespace Talk

variable {statement : String}

theorem conducts_pure (a : α) : Conducts statement (pure a) := Act.conducts_pure _

theorem Conducts.bind {talk : Talk α} {next : α → Talk β} (h : Conducts statement talk)
    (hnext : ∀ a, Conducts statement (next a)) : Conducts statement (talk >>= next) := by
  refine Act.Conducts.bind h fun result => ?_
  cases result with
  | ok a => exact hnext a
  | error fault => exact Act.conducts_pure _

theorem Conducts.discard {talk : Talk α} (h : Conducts statement talk) :
    Conducts statement (discard talk) :=
  h.bind fun _ => conducts_pure ()

end Talk

namespace BoltPool

variable {statement : String}

theorem conducts_request (request : BoltRequest) (hstates : request.States statement) :
    Talk.Conducts statement (BoltPool.request request) := by
  refine Act.Conducts.bind (fun world => ?_) fun _ => Act.conducts_pure _
  obtain ⟨sights, hheard, -⟩ := heard_ask request world
  refine ⟨sights, hheard.nowMs, Nat.le_of_eq hheard.links.symm, hheard.seen, ?_, ?_, ?_⟩
  · intro sight hsight
    obtain ⟨link, hlink, reply, rfl⟩ := hheard.sights sight hsight
    exact .inl ⟨link, hlink, rfl⟩
  · intro sight hsight
    obtain ⟨link, -, reply, rfl⟩ := hheard.sights sight hsight
    exact hstates
  · intro link hlink
    have hnumber : some link.number = world.1.link.map BoltLink.number := by
      rw [← hheard.number, Option.mem_def.mp hlink]
      rfl
    obtain ⟨old, hold, hsame⟩ := Option.map_eq_some_iff.mp hnumber.symm
    exact .inl ⟨old, hold, hsame⟩

theorem conducts_leave : Act.Conducts statement leave :=
  fun _ => ⟨[], rfl, Nat.le_refl _, (List.append_nil _).symm, nofun, nofun, nofun⟩

theorem conducts_openLink : Talk.Conducts statement openLink := by
  rintro ⟨⟨endpoint, user, password, kept⟩, ⟨peer, seen, links, files, nowMs⟩⟩
  unfold openLink Act.change Act.run ExceptT.run ExceptT.mk BoltNet.open?
  dsimp only
  cases peer with
  | none => exact ⟨[], .refl _ _ _⟩
  | some peer =>
      dsimp only
      by_cases hthere : peer.host = endpoint.host ∧ peer.port = endpoint.port
      · rw [if_pos hthere]
        dsimp only
        have hown : ∀ sight ∈ [BoltSight.opening links peer.greet.1],
            (∃ link ∈ kept, link.number = sight.link) ∨ links ≤ sight.link := by
          intro sight hsight
          rw [List.mem_singleton.mp hsight]
          exact .inr (Nat.le_refl _)
        have hstates : ∀ sight ∈ [BoltSight.opening links peer.greet.1],
            sight.States statement := by
          intro sight hsight
          rw [List.mem_singleton.mp hsight]
          trivial
        refine ⟨[.opening links peer.greet.1], ?_⟩
        cases ofGreeting endpoint.secured peer.greet.1 with
        | error fault =>
            exact ⟨rfl, Nat.le_succ _, rfl, hown, hstates, fun link hlink => .inl ⟨link, hlink, rfl⟩⟩
        | ok closed =>
            refine ⟨rfl, Nat.le_succ _, rfl, hown, hstates, ?_⟩
            rintro link ⟨⟩
            exact .inr ⟨Nat.le_refl _, Nat.lt_succ_self _⟩
      · rw [if_neg hthere]
        exact ⟨[], .refl _ _ _⟩

theorem conducts_current : Talk.Conducts statement current :=
  Act.conducts_look.bind fun _ => Act.conducts_pure _

theorem conducts_logIn : Talk.Conducts statement logIn := by
  refine conducts_current.bind fun world => ?_
  obtain ⟨pool, net⟩ := world
  exact (conducts_request (.hello pool.user pool.password.value pool.endpoint.routing)
    trivial).discard

theorem conducts_connect : Talk.Conducts statement connect := by
  have hopened : Talk.Conducts statement (do openLink; logIn) :=
    conducts_openLink.bind fun _ => conducts_logIn
  refine conducts_leave.bind fun _ => Act.Conducts.bind hopened fun result => ?_
  cases result with
  | ok _ => exact Act.conducts_pure _
  | error fault => exact conducts_leave.bind fun _ => Act.conducts_pure _

theorem conducts_ready : Talk.Conducts statement ready := by
  refine Act.conducts_look.bind fun world => ?_
  dsimp only
  cases world.1.link with
  | none => exact conducts_connect
  | some link =>
      refine Act.Conducts.bind (conducts_request .reset trivial) fun result => ?_
      cases result with
      | ok _ => exact Act.conducts_pure _
      | error fault => exact conducts_connect

theorem conducts_start : Talk.Conducts statement start :=
  conducts_ready.bind fun _ => (conducts_request (.start database) trivial).discard

theorem conducts_send (statement : String) : Talk.Conducts statement (send statement) :=
  (conducts_request (.statement statement database) rfl).discard

theorem conducts_pullRows (bound : Nat) : Talk.Conducts statement (pullRows bound) := by
  induction bound with
  | zero => exact Act.conducts_pure _
  | succ bound ih =>
      refine (conducts_request (.pull fetchSize) trivial).bind fun answer => ?_
      obtain ⟨rows, more⟩ := answer
      cases more with
      | true => exact ih.bind fun _ => Talk.conducts_pure _
      | false => exact Talk.conducts_pure _

theorem conducts_pullAll : Talk.Conducts statement pullAll := by
  refine conducts_current.bind fun world => ?_
  obtain ⟨pool, net⟩ := world
  exact conducts_pullRows _

theorem conducts_verify : Talk.Conducts probeStatement verify := by
  refine conducts_start.bind fun _ => (conducts_send _).bind fun _ => ?_
  exact (conducts_request .discard trivial).discard.bind fun _ =>
    (conducts_request .rollback trivial).discard

theorem conducts_rowCount (statement : String) : Talk.Conducts statement (rowCount statement) := by
  refine conducts_start.bind fun _ => (conducts_send _).bind fun _ => ?_
  refine conducts_pullAll.bind fun rows => ?_
  exact (conducts_request .rollback trivial).discard.bind fun _ => Talk.conducts_pure rows

end BoltPool

/-! ## Sessions -/

/-- Whether or not a pool can be opened, no link was found. -/
theorem GraphSettings.conduct_openPool (settings : GraphSettings) (net : BoltNet) :
    ∃ left sights, Conduct BoltPool.probeStatement none net left (settings.openPool.run net).world
        sights ∧
      ∀ pool, (settings.openPool.run net).value = .ok pool → pool.link = left := by
  cases hendpoint : settings.endpoint net.files with
  | error failure =>
      rw [run_openPool_of_error hendpoint]
      exact ⟨none, [], .refl _ none net, nofun⟩
  | ok endpoint =>
      obtain ⟨hvalue, hworld⟩ := run_openPool hendpoint
      obtain ⟨sights, hconduct⟩ := BoltPool.conducts_verify
        (⟨endpoint, settings.username, settings.password, none⟩, net)
      rw [hworld]
      refine ⟨_, sights, hconduct, fun pool hpool => ?_⟩
      obtain ⟨_, -, rfl⟩ := exists_of_map_eq_ok (hvalue.symm.trans hpool)
      rfl

namespace GraphConnection

/-- **To open a session** is done on new links alone. -/
theorem conduct_openSession (settings : GraphSettings) (net : BoltNet) :
    ∃ left sights, Conduct BoltPool.probeStatement none net left
        ((openSession settings).run net).world sights ∧
      ∀ session, ((openSession settings).run net).value = .ok session →
        session.pool.link = left ∧ session.openedMs = net.nowMs := by
  obtain ⟨left, sights, hconduct, hleft⟩ := settings.conduct_openPool net
  obtain ⟨hvalue, hworld⟩ := run_openSession settings net
  rw [hworld]
  refine ⟨left, sights, hconduct, fun session hsession => ?_⟩
  obtain ⟨pool, hpool, rfl⟩ := exists_of_map_eq_ok (hvalue.symm.trans hsession)
  exact ⟨hleft pool hpool, hconduct.nowMs⟩

/-- A talk on a connection finds and leaves the link of its session. -/
theorem conduct_talk {wanted : Talk α} {statement : String}
    (h : Talk.Conducts statement wanted) (connection : GraphConnection) (net : BoltNet) :
    let talking := (talk wanted).run (connection, net)
    ∃ sights, Conduct statement connection.session.pool.link net
      talking.world.1.session.pool.link talking.world.2 sights :=
  h (connection.session.pool, net)

end GraphConnection

end Preflight
