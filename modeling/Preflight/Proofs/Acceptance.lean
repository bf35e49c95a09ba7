import Mathlib.Data.List.Nodup
import Preflight.Runner

/-!
# Lists of steps that are accepted

`stepsFault?` walks over a list of steps with the names it has seen. What it asks
for at each step is `stepsFault?_cons_eq_none_iff`, by which the proofs about runs
take an accepted list apart, one step at a time.

The walk ends at the first step that is out of place, so it also judges the list
as a whole. That a walk over two lists in a row is one walk after the other
(`stepsFault?_append`) leads from the one view to the other: the steps before the
first one out of place are a list without a fault.

## Main results

* `Runner.nodup_names` — the steps of a runner have different names.
* `forall_names_of_fits` — induction along the dependencies of an accepted list.
* `stepsFault?_eq_none_iff` — a list has no fault exactly if it is in order.
* `Runner.of?_judges_by_first_misplaced` — which lists are accepted, and what is
  said about the others.
-/

namespace Preflight

variable {σ : Type}

theorem stepsFault?_cons_eq_none_iff {seen : List String} {step : Step σ}
    {rest : List (Step σ)} :
    stepsFault? seen (step :: rest) = none ↔
      step.name ∉ seen ∧ (∀ dependency, step.dependsOn = some dependency → dependency ∈ seen) ∧
        stepsFault? (step.name :: seen) rest = none := by
  rw [stepsFault?]
  by_cases hseen : step.name ∈ seen
  · simp [hseen]
  · cases hdep : step.dependsOn with
    | none => simp [hseen]
    | some dependency =>
        by_cases hdeclared : dependency ∈ seen <;> simp [hseen, hdeclared]

/-- The names of steps that fit together are different, also from those seen
before. -/
theorem nodup_names_of_fits {seen : List String} {steps : List (Step σ)}
    (hfits : stepsFault? seen steps = none) :
    (steps.map Step.name).Nodup ∧ ∀ name ∈ steps.map Step.name, name ∉ seen := by
  induction steps generalizing seen with
  | nil => simp
  | cons step rest ih =>
      obtain ⟨hfresh, _, hrest⟩ := stepsFault?_cons_eq_none_iff.mp hfits
      obtain ⟨hnodup, hnew⟩ := ih hrest
      rw [List.map_cons, List.nodup_cons]
      refine ⟨⟨fun hmem => hnew _ hmem List.mem_cons_self, hnodup⟩, ?_⟩
      intro name hname
      rcases List.mem_cons.mp hname with rfl | hname
      · exact hfresh
      · exact fun hseen => hnew name hname (List.mem_cons_of_mem _ hseen)

/-- **Induction along dependencies.** What holds of the names seen before, and of
the name of a step as soon as it holds of the one the step depends on, holds of the
names of all steps. -/
theorem forall_names_of_fits {P : String → Prop} {seen : List String} {steps : List (Step σ)}
    (hfits : stepsFault? seen steps = none) (hseen : ∀ name ∈ seen, P name)
    (hstep : ∀ step ∈ steps, (∀ dependency, step.dependsOn = some dependency → P dependency) →
      P step.name) : ∀ step ∈ steps, P step.name := by
  induction steps generalizing seen with
  | nil => simp
  | cons head rest ih =>
      obtain ⟨_, hdeclared, hrest⟩ := stepsFault?_cons_eq_none_iff.mp hfits
      have hhead : P head.name := hstep head List.mem_cons_self fun dependency hdepends =>
        hseen dependency (hdeclared dependency hdepends)
      have hseen' : ∀ name ∈ head.name :: seen, P name :=
        List.forall_mem_cons.mpr ⟨hhead, hseen⟩
      have hlater : ∀ step ∈ rest, P step.name := ih hrest hseen' fun step hmem =>
        hstep step (List.mem_cons_of_mem _ hmem)
      exact List.forall_mem_cons.mpr ⟨hhead, hlater⟩

namespace Runner

/-- A list of steps that fits together is accepted. -/
theorem of?_of_eq_none {steps : List (Step σ)} (h : stepsFault? [] steps = none) :
    of? steps = .ok ⟨steps, h⟩ := by
  unfold of?
  split
  · rfl
  · rename_i fault hfault
    rw [h] at hfault
    cases hfault

/-- The first fault of a list of steps is the reason to refuse it. -/
theorem of?_of_eq_some {steps : List (Step σ)} {fault : StepsFault}
    (h : stepsFault? [] steps = some fault) : of? steps = .error fault := by
  unfold of?
  split
  · rename_i hnone
    rw [h] at hnone
    cases hnone
  · rename_i other hother
    rw [h] at hother
    cases hother
    rfl

theorem nodup_names (runner : Runner σ) : (runner.steps.map Step.name).Nodup :=
  (nodup_names_of_fits runner.accepted).1

/-- No two steps of a runner have the same name. -/
theorem eq_of_name_eq (runner : Runner σ) {step step' : Step σ} (hstep : step ∈ runner.steps)
    (hstep' : step' ∈ runner.steps) (hname : step.name = step'.name) : step = step' :=
  List.inj_on_of_nodup_map runner.nodup_names hstep hstep' hname

end Runner

/-! ## Lists in order -/

/-- All names are different, and a step depends on an earlier one, if on any. -/
structure InOrder (steps : List (Step σ)) : Prop where
  nodup : (steps.map Step.name).Nodup
  declared : ∀ earlier step later, steps = earlier ++ step :: later →
    ∀ dependency, step.dependsOn = some dependency → dependency ∈ earlier.map Step.name

/-- `text` is what is said about a step that is out of place after the steps of
these names. A name that is there already is said first, whatever the step depends
on. -/
inductive Misplaced (names : List String) (step : Step σ) (text : String) : Prop where
  | duplicate (repeated : step.name ∈ names)
      (told : text = "duplicate step name '" ++ step.name ++ "'")
  | undeclared (dependency : String) (fresh : step.name ∉ names)
      (depends : step.dependsOn = some dependency) (unknown : dependency ∉ names)
      (told : text = "step '" ++ step.name ++ "' depends on '" ++ dependency ++
        "', which is not declared before it")

theorem Misplaced.of_mem_iff {names names' : List String} {step : Step σ} {text : String}
    (h : Misplaced names step text) (hnames : ∀ name, name ∈ names ↔ name ∈ names') :
    Misplaced names' step text := by
  cases h with
  | duplicate repeated told => exact .duplicate ((hnames _).mp repeated) told
  | undeclared dependency fresh depends unknown told =>
      rw [hnames] at fresh unknown
      exact .undeclared dependency fresh depends unknown told

/-- The walk over two lists in a row is one walk after the other, the second with
the names of the first. -/
theorem stepsFault?_append (seen : List String) (steps later : List (Step σ)) :
    stepsFault? seen (steps ++ later) =
      (stepsFault? seen steps).or
        (stepsFault? ((steps.map Step.name).reverse ++ seen) later) := by
  induction steps generalizing seen with
  | nil => rfl
  | cons step rest ih =>
      have hnames : ((step :: rest).map Step.name).reverse ++ seen =
          (rest.map Step.name).reverse ++ step.name :: seen := by simp
      rw [hnames, List.cons_append, stepsFault?, stepsFault?]
      by_cases hseen : step.name ∈ seen
      · simp [hseen]
      · cases hdep : step.dependsOn with
        | none => simp [hseen, ih]
        | some dependency =>
            by_cases hdeclared : dependency ∈ seen
            · simp [hseen, hdeclared, ih]
            · simp [hseen, hdeclared]

/-- What the walk says about one step. -/
theorem message_stepsFault?_singleton_iff {seen : List String} {step : Step σ} {text : String} :
    (stepsFault? seen [step]).map StepsFault.message = some text ↔ Misplaced seen step text := by
  constructor
  · intro h
    obtain ⟨fault, hfault, rfl⟩ := Option.map_eq_some_iff.mp h
    by_cases hseen : step.name ∈ seen
    · obtain rfl : StepsFault.duplicate step.name = fault := by
        simpa [stepsFault?, hseen] using hfault
      exact .duplicate hseen rfl
    · cases hdep : step.dependsOn with
      | none => simp [stepsFault?, hseen, hdep] at hfault
      | some dependency =>
          by_cases hdeclared : dependency ∈ seen
          · simp [stepsFault?, hseen, hdep, hdeclared] at hfault
          · obtain rfl : StepsFault.undeclared step.name dependency = fault := by
              simpa [stepsFault?, hseen, hdep, hdeclared] using hfault
            exact .undeclared dependency hseen hdep hdeclared rfl
  · rintro (⟨repeated, rfl⟩ | ⟨dependency, fresh, depends, unknown, rfl⟩)
    · have hfault : stepsFault? seen [step] = some (.duplicate step.name) := by
        simp [stepsFault?, repeated]
      rw [hfault]
      rfl
    · have hfault : stepsFault? seen [step] = some (.undeclared step.name dependency) := by
        simp [stepsFault?, fresh, depends, unknown]
      rw [hfault]
      rfl

/-- **The walk tells of the first step that is out of place.** -/
theorem message_stepsFault?_iff {seen : List String} {steps : List (Step σ)} {text : String} :
    (stepsFault? seen steps).map StepsFault.message = some text ↔
      ∃ earlier step later, steps = earlier ++ step :: later ∧
        stepsFault? seen earlier = none ∧
          Misplaced ((earlier.map Step.name).reverse ++ seen) step text := by
  constructor
  · intro h
    induction steps generalizing seen with
    | nil => cases h
    | cons step rest ih =>
        rw [← List.singleton_append, stepsFault?_append] at h
        cases hstep : stepsFault? seen [step] with
        | some fault =>
            rw [hstep, Option.some_or, ← hstep] at h
            exact ⟨[], step, rest, rfl, rfl, message_stepsFault?_singleton_iff.mp h⟩
        | none =>
            rw [hstep, Option.none_or] at h
            obtain ⟨earlier, culprit, later, rfl, hfits, hculprit⟩ := ih h
            refine ⟨step :: earlier, culprit, later, rfl, ?_, ?_⟩
            · rw [← List.singleton_append, stepsFault?_append, hstep, Option.none_or, hfits]
            · simpa using hculprit
  · rintro ⟨earlier, step, later, rfl, hfits, hculprit⟩
    have hstep := message_stepsFault?_singleton_iff.mpr hculprit
    rw [stepsFault?_append, hfits, Option.none_or, ← List.singleton_append, stepsFault?_append]
    obtain ⟨fault, hfault, rfl⟩ := Option.map_eq_some_iff.mp hstep
    rw [hfault, Option.some_or, Option.map_some]

/-- **A list has no fault exactly if it is in order.** -/
theorem stepsFault?_eq_none_iff {steps : List (Step σ)} :
    stepsFault? [] steps = none ↔ InOrder steps := by
  constructor
  · intro hfits
    refine ⟨(nodup_names_of_fits hfits).1, ?_⟩
    rintro earlier step later rfl dependency hdepends
    rw [stepsFault?_append, Option.or_eq_none_iff] at hfits
    obtain ⟨_, hdeclared, _⟩ := stepsFault?_cons_eq_none_iff.mp hfits.2
    simpa using hdeclared dependency hdepends
  · intro horder
    cases hfault : stepsFault? [] steps with
    | none => rfl
    | some fault =>
        obtain ⟨earlier, step, later, rfl, _, hculprit⟩ :=
          message_stepsFault?_iff.mp (congrArg (Option.map StepsFault.message) hfault)
        exfalso
        cases hculprit with
        | duplicate repeated =>
            have hnodup := horder.nodup
            rw [List.map_append, List.map_cons, List.nodup_append] at hnodup
            exact hnodup.2.2 _ (by simpa using repeated) _ List.mem_cons_self rfl
        | undeclared dependency _ depends unknown =>
            have hdeclared := horder.declared earlier step later rfl dependency depends
            exact unknown (by simpa using hdeclared)

namespace Runner

/-- Accepted are the lists in order. -/
theorem exists_of?_eq_ok_iff {steps : List (Step σ)} :
    (∃ runner, of? steps = .ok runner) ↔ InOrder steps := by
  rw [← stepsFault?_eq_none_iff]
  constructor
  · rintro ⟨runner, h⟩
    rw [← steps_of? h]
    exact runner.accepted
  · intro hfits
    exact ⟨_, of?_of_eq_none hfits⟩

/-- An accepted list is kept as it is. -/
theorem of?_eq_ok_iff {steps : List (Step σ)} {runner : Runner σ} :
    of? steps = .ok runner ↔ runner.steps = steps := by
  constructor
  · exact steps_of?
  · rintro rfl
    exact of?_of_eq_none runner.accepted

/-- The reason to refuse a list is its first step out of place. -/
theorem mapError_of?_eq_error_iff {steps : List (Step σ)} {text : String} :
    (of? steps).mapError StepsFault.message = .error text ↔
      ∃ earlier step later, steps = earlier ++ step :: later ∧ InOrder earlier ∧
        Misplaced (earlier.map Step.name) step text := by
  have hreason : (of? steps).mapError StepsFault.message = .error text ↔
      (stepsFault? [] steps).map StepsFault.message = some text := by
    cases hfault : stepsFault? [] steps with
    | none => simp [of?_of_eq_none hfault, Except.mapError]
    | some fault => simp [of?_of_eq_some hfault, Except.mapError]
  have hnames (earlier : List (Step σ)) (name : String) :
      name ∈ (earlier.map Step.name).reverse ++ [] ↔ name ∈ earlier.map Step.name := by
    simp
  rw [hreason, message_stepsFault?_iff]
  constructor
  · rintro ⟨earlier, step, later, hsteps, hfits, hculprit⟩
    have horder : InOrder earlier := stepsFault?_eq_none_iff.mp hfits
    exact ⟨earlier, step, later, hsteps, horder, hculprit.of_mem_iff (hnames earlier)⟩
  · rintro ⟨earlier, step, later, hsteps, horder, hculprit⟩
    have hfits : stepsFault? [] earlier = none := stepsFault?_eq_none_iff.mpr horder
    exact ⟨earlier, step, later, hsteps, hfits,
      hculprit.of_mem_iff fun name => (hnames earlier name).symm⟩

/-- **A list of steps is judged as a whole, and by its first step out of place.**
It is accepted exactly if it is in order, and then kept as it is. If it is
refused, the reason tells of the first step that is out of place: all steps before
it are in order. -/
theorem of?_judges_by_first_misplaced (steps : List (Step σ)) :
    ((∃ runner, of? steps = .ok runner) ↔ InOrder steps) ∧
      (∀ runner : Runner σ, of? steps = .ok runner ↔ runner.steps = steps) ∧
      ∀ text, (of? steps).mapError StepsFault.message = .error text ↔
        ∃ earlier step later, steps = earlier ++ step :: later ∧ InOrder earlier ∧
          Misplaced (earlier.map Step.name) step text :=
  ⟨exists_of?_eq_ok_iff, fun _ => of?_eq_ok_iff, fun _ => mapError_of?_eq_error_iff⟩

end Runner

/-- Two steps are out of place here, and the first of them in two ways. -/
example (probe : Act σ Attempt) :
    (Runner.of? [⟨"A", none, none, probe⟩, ⟨"A", some "C", none, probe⟩,
      ⟨"B", some "B", none, probe⟩]).mapError StepsFault.message =
        .error "duplicate step name 'A'" := rfl

end Preflight
