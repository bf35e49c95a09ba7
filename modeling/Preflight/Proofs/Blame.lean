import Mathlib.Data.List.Nodup
import Mathlib.Logic.Relation
import Preflight.Proofs.Course

/-!
# What a complete run does with each step

A run decides about a step by looking up one status, that of the step it depends
on. What it comes to is a matter of the whole chain behind the step: it is
skipped exactly if some step on that chain has failed.

Two facts carry this over. The statuses that the run keeps are those of its
results so far (`Tallies`), and since a step depends only on steps declared
before it, they are already what the finished report will say; so the decision
can be read off the report (`Course.fates`). And every skipped result has a
failed one behind it in the results so far (`Blamed`), which one more result
never spoils (`Blamed.concat`).

## Main results

* `Course.fates` — a complete run treats a step as the result of the one it
  depends on says.
* `Course.blamed` — every skipped result of a run, complete or not, has a failed
  one behind it.
* `Runner.collectAll_accounts_for_steps` — the report of a complete run, step by
  step and as a whole.
-/

namespace Preflight

variable {σ : Type}

/-! ## Dependencies -/

/-- One step of a list depends on another, both told by their names. -/
def DependsOn (steps : List (Step σ)) (name dependency : String) : Prop :=
  ∃ step ∈ steps, step.name = name ∧ step.dependsOn = some dependency

theorem Runner.obstacle?_eq_some_iff {settled : List (String × StepStatus)} {step : Step σ}
    {dependency : String} :
    obstacle? settled step = some dependency ↔
      step.dependsOn = some dependency ∧ settled.lookup dependency ≠ some .succeeded := by
  simp [obstacle?, Option.filter_eq_some_iff]

theorem Runner.obstacle?_eq_none_iff {settled : List (String × StepStatus)} {step : Step σ} :
    obstacle? settled step = none ↔
      ∀ dependency, step.dependsOn = some dependency →
        settled.lookup dependency = some .succeeded := by
  simp [obstacle?, Option.filter_eq_none_iff]

/-! ## The statuses so far -/

/-- The status under a name in a list of results. -/
def statusIn (results : List StepResult) (name : String) : Option StepStatus :=
  (results.find? fun result => result.name = name).map StepResult.status

/-- The statuses that a run keeps are those of its results so far. -/
def Tallies (settled : List (String × StepStatus)) (earlier : List StepResult) : Prop :=
  ∀ name, settled.lookup name = statusIn earlier name

theorem lookup_eq_none_of_not_mem {settled : List (String × StepStatus)} {name : String}
    (h : name ∉ settled.map Prod.fst) : settled.lookup name = none := by
  rw [List.lookup_eq_none_iff]
  intro entry hentry
  have hne : entry.1 ≠ name := fun heq => h (heq ▸ List.mem_map_of_mem hentry)
  simpa using hne.symm

theorem lookup_ne_none_of_mem {settled : List (String × StepStatus)} {name : String}
    (h : name ∈ settled.map Prod.fst) : settled.lookup name ≠ none := by
  obtain ⟨entry, hentry, rfl⟩ := List.mem_map.mp h
  intro hnone
  simpa using List.lookup_eq_none_iff.mp hnone entry hentry

namespace Tallies

variable {settled : List (String × StepStatus)} {earlier : List StepResult}

theorem nil : Tallies [] [] := fun _ => rfl

/-- One more result is one more status, as long as its name is new. -/
theorem concat (h : Tallies settled earlier) (result : StepResult)
    (hfresh : result.name ∉ settled.map Prod.fst) :
    Tallies ((result.name, result.status) :: settled) (earlier ++ [result]) := by
  intro name
  have hearlier := h name
  by_cases hname : name = result.name
  · subst hname
    rw [lookup_eq_none_of_not_mem hfresh] at hearlier
    have hnone : (earlier.find? fun other => other.name = result.name) = none := by
      simpa [statusIn] using hearlier.symm
    simp [statusIn, List.find?_append, hnone]
  · have hkey : (name == result.name) = false := by simpa using hname
    have hskip : (decide (result.name = name)) = false := by simpa using Ne.symm hname
    simp only [List.lookup_cons, hkey, hearlier, statusIn, List.find?_append, List.find?_cons,
      hskip, List.find?_nil, Option.or_none]

/-- What the report will say about a step that is settled is what is settled
now. -/
theorem statusIn_append (h : Tallies settled earlier) {name : String}
    (hmem : name ∈ settled.map Prod.fst) (later : List StepResult) :
    statusIn (earlier ++ later) name = settled.lookup name := by
  have hsome := lookup_ne_none_of_mem hmem
  rw [h name] at hsome ⊢
  unfold statusIn at hsome ⊢
  rw [List.find?_append]
  cases hfind : earlier.find? fun result => result.name = name with
  | none => simp [hfind] at hsome
  | some result => rfl

/-- What a step depends on has succeeded when nothing keeps the step from being
run, and the finished report will say so. -/
theorem statusIn_of_free (h : Tallies settled earlier) {step : Step σ} {rest : List (Step σ)}
    (hfits : stepsFault? (settled.map Prod.fst) (step :: rest) = none)
    (hfree : Runner.obstacle? settled step = none) (later : List StepResult)
    {dependency : String} (hdepends : step.dependsOn = some dependency) :
    statusIn (earlier ++ later) dependency = some .succeeded := by
  obtain ⟨_, hdeclared, _⟩ := stepsFault?_cons_eq_none_iff.mp hfits
  rw [h.statusIn_append (hdeclared dependency hdepends)]
  exact Runner.obstacle?_eq_none_iff.mp hfree dependency hdepends

end Tallies

/-! ## What the direct dependency says -/

/-- What becomes of a step in a complete run, told by the report and the calls. -/
inductive Fate (results : List StepResult) (calls : List Call) (step : Step σ) :
    StepResult → Prop where
  | skipped (dependency : String) (depends : step.dependsOn = some dependency)
      (unmet : statusIn results dependency ≠ some .succeeded) :
      Fate results calls step (.skipped step.name dependency)
  | called (attempt : Attempt)
      (met : ∀ dependency, step.dependsOn = some dependency →
        statusIn results dependency = some .succeeded)
      (called : ⟨step.name, attempt⟩ ∈ calls) :
      Fate results calls step (step.result attempt)

theorem Fate.name {results : List StepResult} {calls : List Call} {step : Step σ}
    {result : StepResult} (h : Fate results calls step result) : result.name = step.name := by
  cases h with
  | skipped => rfl
  | called attempt => exact step.name_result attempt

/-- What a skipped result says is told by the step alone. -/
theorem Fate.of_skipped {results : List StepResult} {calls : List Call} {step : Step σ}
    {result : StepResult} (h : Fate results calls step result)
    (hskipped : result.status = .skipped) :
    ∃ dependency, step.dependsOn = some dependency ∧
      result = .skipped step.name dependency := by
  cases h with
  | skipped dependency depends _ => exact ⟨dependency, depends, rfl⟩
  | called attempt _ _ => exact absurd hskipped (step.status_result_ne_skipped attempt)

/-- What any other result says is told by a call. -/
theorem Fate.of_called {results : List StepResult} {calls : List Call} {step : Step σ}
    {result : StepResult} (h : Fate results calls step result)
    (hcalled : result.status ≠ .skipped) :
    ∃ attempt, ⟨step.name, attempt⟩ ∈ calls ∧ result = step.result attempt := by
  cases h with
  | skipped => exact absurd rfl hcalled
  | called attempt _ called => exact ⟨attempt, called, rfl⟩

namespace Course

variable {policy : RunPolicy} {settled : List (String × StepStatus)} {steps : List (Step σ)}
  {calls known : List Call} {earlier later : List StepResult}

/-- **A complete run treats each step as the report says of its dependency.** The
decision was made on the statuses of that moment; none of them changes later. -/
theorem fates (course : Course .collectAll settled steps calls later)
    (htallies : Tallies settled earlier)
    (hfits : stepsFault? (settled.map Prod.fst) steps = none) (hcalls : calls ⊆ known) :
    List.Forall₂ (Fate (earlier ++ later) known) steps later := by
  induction course generalizing earlier with
  | done => exact .nil
  | @skip settled step rest calls later dependency blocked _ ih =>
      obtain ⟨hfresh, hdeclared, hrest⟩ := stepsFault?_cons_eq_none_iff.mp hfits
      obtain ⟨hdepends, hunmet⟩ := Runner.obstacle?_eq_some_iff.mp blocked
      refine .cons (.skipped dependency hdepends ?_) ?_
      · rwa [htallies.statusIn_append (hdeclared dependency hdepends)]
      · rw [List.append_cons]
        exact ih (htallies.concat (.skipped step.name dependency) hfresh) hrest hcalls
  | halt _ _ _ failFast => cases failFast
  | @call settled step rest calls later attempt free _ _ ih =>
      obtain ⟨hcalled, hcalls⟩ := List.cons_subset.mp hcalls
      refine .cons (.called attempt ?_ hcalled) ?_
      · intro dependency hdepends
        exact htallies.statusIn_of_free hfits free _ hdepends
      · obtain ⟨hfresh, _, hrest⟩ := stepsFault?_cons_eq_none_iff.mp hfits
        rw [← step.name_result attempt] at hfresh hrest ih
        rw [List.append_cons]
        exact ih (htallies.concat (step.result attempt) hfresh) hrest hcalls

end Course

/-! ## What the chain of dependencies says -/

/-- Behind every skipped result there is a failed one: its step stands on the
chain of dependencies of the skipped step. -/
def Blamed (steps : List (Step σ)) (results : List StepResult) : Prop :=
  ∀ result ∈ results, result.status = .skipped →
    ∃ culprit ∈ results, culprit.status = .failed ∧
      Relation.TransGen (DependsOn steps) result.name culprit.name

namespace Blamed

variable {steps : List (Step σ)} {results : List StepResult}

theorem nil : Blamed steps [] := by
  intro result hresult
  cases hresult

/-- One more result keeps the blame where it is, if its own is among the results
so far. -/
theorem concat (h : Blamed steps results) {last : StepResult}
    (hlast : last.status = .skipped → ∃ culprit ∈ results, culprit.status = .failed ∧
      Relation.TransGen (DependsOn steps) last.name culprit.name) :
    Blamed steps (results ++ [last]) := by
  intro result hresult hskipped
  have hblame : ∃ culprit ∈ results, culprit.status = .failed ∧
      Relation.TransGen (DependsOn steps) result.name culprit.name := by
    rcases List.mem_append.mp hresult with hmem | hmem
    · exact h result hmem hskipped
    · obtain rfl := List.mem_singleton.mp hmem
      exact hlast hskipped
  obtain ⟨culprit, hculprit, hfailed, hchain⟩ := hblame
  exact ⟨culprit, List.mem_append_left _ hculprit, hfailed, hchain⟩

/-- A result that did not succeed passes on its blame to a step that depends on
it. -/
theorem of_dependsOn (h : Blamed steps results) {name : String} {dependency : StepResult}
    (hmem : dependency ∈ results) (hstatus : dependency.status ≠ .succeeded)
    (hdepends : DependsOn steps name dependency.name) :
    ∃ culprit ∈ results, culprit.status = .failed ∧
      Relation.TransGen (DependsOn steps) name culprit.name := by
  cases hcase : dependency.status with
  | succeeded => exact absurd hcase hstatus
  | failed => exact ⟨dependency, hmem, hcase, .single hdepends⟩
  | skipped =>
      obtain ⟨culprit, hculprit, hfailed, hchain⟩ := h dependency hmem hcase
      exact ⟨culprit, hculprit, hfailed, .head hdepends hchain⟩

/-- Where nothing has failed, everything has succeeded. -/
theorem all_succeeded (h : Blamed steps results)
    (hnone : ∀ result ∈ results, result.status ≠ .failed) :
    ∀ result ∈ results, result.status = .succeeded := by
  intro result hresult
  cases hcase : result.status with
  | succeeded => rfl
  | failed => exact absurd hcase (hnone result hresult)
  | skipped =>
      obtain ⟨culprit, hculprit, hfailed, _⟩ := h result hresult hcase
      exact absurd hfailed (hnone culprit hculprit)

end Blamed

namespace Course

variable {policy : RunPolicy} {settled : List (String × StepStatus)} {steps all : List (Step σ)}
  {calls : List Call} {earlier later : List StepResult}

/-- **Every skipped result of a run has a failed one behind it**, whatever the
policy. -/
theorem blamed (course : Course policy settled steps calls later)
    (htallies : Tallies settled earlier)
    (hfits : stepsFault? (settled.map Prod.fst) steps = none) (hsteps : steps ⊆ all)
    (h : Blamed all earlier) : Blamed all (earlier ++ later) := by
  induction course generalizing earlier with
  | done => rwa [List.append_nil]
  | @skip settled step rest calls later dependency blocked _ ih =>
      obtain ⟨hfresh, hdeclared, hrest⟩ := stepsFault?_cons_eq_none_iff.mp hfits
      obtain ⟨hdepends, hunmet⟩ := Runner.obstacle?_eq_some_iff.mp blocked
      obtain ⟨hstep, hsteps⟩ := List.cons_subset.mp hsteps
      rw [List.append_cons]
      refine ih (htallies.concat (.skipped step.name dependency) hfresh) hrest hsteps
        (h.concat fun _ => ?_)
      -- the dependency is settled, so it has a result, and that did not succeed
      have hsettled := lookup_ne_none_of_mem (hdeclared dependency hdepends)
      rw [htallies dependency, statusIn] at hunmet hsettled
      cases hfind : earlier.find? fun result => result.name = dependency with
      | none => simp [hfind] at hsettled
      | some found =>
          have hname : found.name = dependency := by simpa using List.find?_some hfind
          have hstatus : found.status ≠ .succeeded := by simpa [hfind] using hunmet
          exact h.of_dependsOn (List.mem_of_find?_eq_some hfind) hstatus
            ⟨step, hstep, rfl, hname ▸ hdepends⟩
  | @halt settled step rest attempt _ _ _ =>
      refine h.concat fun hskipped => ?_
      exact absurd hskipped (step.status_result_ne_skipped attempt)
  | @call settled step rest calls later attempt _ _ _ ih =>
      obtain ⟨hfresh, _, hrest⟩ := stepsFault?_cons_eq_none_iff.mp hfits
      rw [← step.name_result attempt] at hfresh hrest ih
      obtain ⟨_, hsteps⟩ := List.cons_subset.mp hsteps
      rw [List.append_cons]
      refine ih (htallies.concat (step.result attempt) hfresh) hrest hsteps
        (h.concat fun hskipped => ?_)
      exact absurd hskipped (step.status_result_ne_skipped attempt)

end Course

/-! ## Finding a step by its name -/

/-- Under names that are different, only one entry is filed under its name. -/
theorem filter_eq_singleton_of_nodup {α : Type} {f : α → String} {xs : List α}
    (hnodup : (xs.map f).Nodup) {x : α} (hx : x ∈ xs) :
    (xs.filter fun y => f y = f x) = [x] := by
  induction xs with
  | nil => cases hx
  | cons head tail ih =>
      obtain ⟨hhead, htail⟩ := List.nodup_cons.mp hnodup
      rcases List.mem_cons.mp hx with rfl | hx
      · have hnone : (tail.filter fun y => f y = f x) = [] := by
          rw [List.filter_eq_nil_iff]
          intro y hy heq
          exact hhead (of_decide_eq_true heq ▸ List.mem_map_of_mem hy)
        simp [hnone]
      · have hne : f head ≠ f x := fun heq => hhead (heq ▸ List.mem_map_of_mem hx)
        simp [hne, ih htail hx]

theorem find?_eq_some_of_nodup {α : Type} {f : α → String} {xs : List α}
    (hnodup : (xs.map f).Nodup) {x : α} (hx : x ∈ xs) :
    (xs.find? fun y => f y = f x) = some x := by
  rw [← List.head?_filter, filter_eq_singleton_of_nodup hnodup hx]
  rfl

theorem exists_mem_of_forall₂ {α β : Type} {R : α → β → Prop} {xs : List α} {ys : List β}
    (h : List.Forall₂ R xs ys) : ∀ x ∈ xs, ∃ y ∈ ys, R x y := by
  induction h with
  | nil => simp
  | @cons x y xs ys hxy _ ih =>
      intro z hz
      rcases List.mem_cons.mp hz with rfl | hz
      · exact ⟨y, List.mem_cons_self, hxy⟩
      · obtain ⟨w, hw, hzw⟩ := ih z hz
        exact ⟨w, List.mem_cons_of_mem _ hw, hzw⟩

section Chain

variable {steps : List (Step σ)} {results : List StepResult} {calls : List Call}

theorem names_eq_of_fates (hfates : List.Forall₂ (Fate results calls) steps results) :
    results.map StepResult.name = steps.map Step.name := by
  rw [← List.forall₂_eq_eq_eq, List.forall₂_map_left_iff, List.forall₂_map_right_iff]
  exact List.Forall₂.flip (hfates.imp fun _ _ h => h.name)

/-- A step whose dependency did not succeed is skipped. -/
theorem statusIn_eq_skipped_of_unmet (hfates : List.Forall₂ (Fate results calls) steps results)
    (hnodup : (steps.map Step.name).Nodup) {name dependency : String}
    (hdepends : DependsOn steps name dependency)
    (hunmet : statusIn results dependency ≠ some .succeeded) :
    statusIn results name = some .skipped := by
  obtain ⟨step, hstep, rfl, hdep⟩ := hdepends
  obtain ⟨result, hresult, hfate⟩ := exists_mem_of_forall₂ hfates step hstep
  rw [← names_eq_of_fates hfates] at hnodup
  have hfind := find?_eq_some_of_nodup hnodup hresult
  rw [hfate.name] at hfind
  rw [statusIn, hfind]
  cases hfate with
  | skipped => rfl
  | called attempt met _ => exact absurd (met dependency hdep) hunmet

/-- **A failure skips everything behind it.** The induction runs along the chain,
from its end towards the step. -/
theorem statusIn_eq_skipped_of_chain (hfates : List.Forall₂ (Fate results calls) steps results)
    (hnodup : (steps.map Step.name).Nodup) {name : String} {culprit : StepResult}
    (hculprit : culprit ∈ results) (hfailed : culprit.status = .failed)
    (hchain : Relation.TransGen (DependsOn steps) name culprit.name) :
    statusIn results name = some .skipped := by
  have hfind : (results.find? fun result => result.name = culprit.name) = some culprit := by
    refine find?_eq_some_of_nodup ?_ hculprit
    rwa [names_eq_of_fates hfates]
  have hstatus : statusIn results culprit.name = some .failed := by
    rw [statusIn, hfind, Option.map_some, hfailed]
  induction hchain using Relation.TransGen.head_induction_on with
  | single hdepends =>
      refine statusIn_eq_skipped_of_unmet hfates hnodup hdepends ?_
      simp [hstatus]
  | head hdepends _ ih =>
      refine statusIn_eq_skipped_of_unmet hfates hnodup hdepends ?_
      simp [ih]

end Chain

/-! ## The report of a complete run -/

namespace Runner

variable (runner : Runner σ) (service : String) (policy : RunPolicy) (stamp : Timestamp)
  (world : σ)

theorem nodup_names_report :
    ((runner.report service policy stamp world).steps.map StepResult.name).Nodup :=
  runner.nodup_names.sublist
    (runner.course_report service policy stamp world).names_results.sublist

/-- No probe is called twice in a run. -/
theorem nodup_names_calls :
    ((runner.calls service policy stamp world).map Call.name).Nodup := by
  rw [(runner.course_report service policy stamp world).names_calls]
  exact (runner.nodup_names_report service policy stamp world).sublist
    (List.filter_sublist.map _)

theorem fates_report :
    List.Forall₂ (Fate (runner.report service .collectAll stamp world).steps
        (runner.calls service .collectAll stamp world))
      runner.steps (runner.report service .collectAll stamp world).steps :=
  (runner.course_report service .collectAll stamp world).fates .nil runner.accepted
    (List.Subset.refl _)

theorem blamed_report : Blamed runner.steps (runner.report service policy stamp world).steps :=
  (runner.course_report service policy stamp world).blamed .nil runner.accepted
    (List.Subset.refl _) .nil

/-- A report is good exactly if nothing in it has failed: a skipped step never
spoils it alone. -/
theorem verdict_report_iff_firstFailure? :
    (runner.report service policy stamp world).verdict = .successful ↔
      (runner.report service policy stamp world).firstFailure? = none := by
  rw [verdict_report_iff, Report.firstFailure?, List.find?_eq_none]
  constructor
  · intro hall result hresult
    simp [hall result hresult]
  · intro hnone
    apply (runner.blamed_report service policy stamp world).all_succeeded
    intro result hresult
    simpa using hnone result hresult

end Runner

/-- What the report of a complete run owes to a step. -/
structure Accounted (steps : List (Step σ)) (report : Report) (calls : List Call)
    (step : Step σ) (result : StepResult) : Prop where
  name : result.name = step.name
  /-- The result is found under the name. -/
  found : report.step? step.name = some result
  /-- Skipped are the steps with a failure on the chain of their dependencies. -/
  skipped_iff : result.status = .skipped ↔
    ∃ culprit ∈ report.steps, culprit.status = .failed ∧
      Relation.TransGen (DependsOn steps) step.name culprit.name
  of_skipped : result.status = .skipped →
    ∃ dependency, step.dependsOn = some dependency ∧
      result.message =
        some ("skipped: prerequisite step '" ++ dependency ++ "' did not succeed") ∧
      result.kind = none ∧ result.errorLog = none
  /-- Otherwise the probe was called, once, and the result tells its answer; an
  answer after the bound is none. -/
  of_called : result.status ≠ .skipped →
    ∃ attempt, (calls.filter fun call => call.name = step.name) = [⟨step.name, attempt⟩] ∧
      (step.InTime attempt → result.Tells attempt.result) ∧
      ∀ limit, step.limitMicros = some limit → Step.deadlineMs limit < attempt.tookMs →
        result.Tells (.error (Step.timeoutFailure limit))

section Account

variable (runner : Runner σ) (service : String) (stamp : Timestamp) (world : σ) {step : Step σ}
  {result : StepResult}
  (hfate : Fate (runner.report service .collectAll stamp world).steps
    (runner.calls service .collectAll stamp world) step result)
  (hresult : result ∈ (runner.report service .collectAll stamp world).steps)

include hfate hresult

theorem Runner.step?_report_eq :
    (runner.report service .collectAll stamp world).step? step.name = some result := by
  rw [← hfate.name]
  exact find?_eq_some_of_nodup (runner.nodup_names_report service .collectAll stamp world) hresult

/-- A step is skipped exactly if there is a failure on the chain of its
dependencies. -/
theorem Runner.status_eq_skipped_iff :
    result.status = .skipped ↔
      ∃ culprit ∈ (runner.report service .collectAll stamp world).steps,
        culprit.status = .failed ∧
          Relation.TransGen (DependsOn runner.steps) step.name culprit.name := by
  constructor
  · intro hskipped
    rw [← hfate.name]
    exact runner.blamed_report service .collectAll stamp world result hresult hskipped
  · rintro ⟨culprit, hculprit, hfailed, hchain⟩
    have hstatus := statusIn_eq_skipped_of_chain (runner.fates_report service stamp world)
      runner.nodup_names hculprit hfailed hchain
    have hfound : ((runner.report service .collectAll stamp world).steps.find? fun result =>
        result.name = step.name) = some result :=
      runner.step?_report_eq service stamp world hfate hresult
    rw [statusIn, hfound] at hstatus
    exact Option.some.inj hstatus

theorem Runner.accounted :
    Accounted runner.steps (runner.report service .collectAll stamp world)
      (runner.calls service .collectAll stamp world) step result where
  name := hfate.name
  found := runner.step?_report_eq service stamp world hfate hresult
  skipped_iff := runner.status_eq_skipped_iff service stamp world hfate hresult
  of_skipped := by
    intro hskipped
    obtain ⟨dependency, hdepends, rfl⟩ := hfate.of_skipped hskipped
    exact ⟨dependency, hdepends, rfl, rfl, rfl⟩
  of_called := by
    intro hcalled
    obtain ⟨attempt, hcall, rfl⟩ := hfate.of_called hcalled
    have honce := filter_eq_singleton_of_nodup
      (runner.nodup_names_calls service .collectAll stamp world) hcall
    refine ⟨attempt, honce, Step.tells_result_of_inTime, ?_⟩
    intro limit hlimit hlate
    exact Step.tells_result_of_late hlimit hlate

end Account

/-- **The report of a complete run accounts for every step.** Its results belong
one by one to the declared steps, in their order, whatever the probes do to the
world; its verdict is good exactly if all of them succeeded, and exactly if it
has no first failure. -/
theorem Runner.collectAll_accounts_for_steps (runner : Runner σ) (service : String)
    (stamp : Timestamp) (world : σ) :
    let report := runner.report service .collectAll stamp world
    let calls := runner.calls service .collectAll stamp world
    List.Forall₂ (Accounted runner.steps report calls) runner.steps report.steps ∧
      (report.verdict = .successful ↔ ∀ result ∈ report.steps, result.status = .succeeded) ∧
      (report.verdict = .successful ↔ report.firstFailure? = none) := by
  intro report calls
  have hfates := runner.fates_report service stamp world
  refine ⟨?_, runner.verdict_report_iff service .collectAll stamp world,
    runner.verdict_report_iff_firstFailure? service .collectAll stamp world⟩
  rw [List.forall₂_iff_zip]
  refine ⟨hfates.length_eq, ?_⟩
  intro step result hzip
  have hfate := List.forall₂_zip hfates hzip
  obtain ⟨_, hresult⟩ := List.of_mem_zip hzip
  exact runner.accounted service stamp world hfate hresult

end Preflight
