import Preflight.Proofs.Delivery

/-!
# The order of the steps

The same steps can often be put in several orders in which they are accepted. A
complete run decides about a step by the status of the one it depends on, and the
report says what that status was (`Course.fates`). The order does not occur in
this: two steps with the same fate rules have the same result as soon as what they
depend on has the same status. So two runs agree about a step by induction along
its dependencies, and that induction may follow either of the two orders.

A fail-fast run stops somewhere, and where depends on the order. Whether it is
content does not, since its verdict is that of the complete run.

## Main results

* `Fate.untimed_eq` — one step in two runs, from what it depends on.
* `Runner.agreesOn` — two complete runs agree about every name.
* `reports_agree_across_orderings` — reports and inline answers of two orders.
-/

namespace Preflight

variable {σ τ : Type}

/-! ## One step in two runs -/

/-- **A fate is decided by the status of the dependency and by the outcome**, so a
step has the same result in two runs that agree about these. -/
theorem Fate.untimed_eq {results results' : List StepResult} {calls calls' : List Call}
    {steps : List (Step σ)} {step : Step σ} {result result' : StepResult}
    (fate : Fate results calls step result) (fate' : Fate results' calls' step result')
    (hdependency : ∀ dependency, step.dependsOn = some dependency →
      statusIn results dependency = statusIn results' dependency)
    (hstep : step ∈ steps) (hsame : SameOutcomes steps calls calls') :
    result.untimed = result'.untimed := by
  cases fate with
  | skipped dependency depends unmet =>
      cases fate' with
      | skipped dependency' depends' _ =>
          rw [depends, Option.some_inj] at depends'
          rw [depends']
      | called _ met _ =>
          rw [hdependency dependency depends] at unmet
          exact absurd (met dependency depends) unmet
  | called attempt met called =>
      cases fate' with
      | skipped dependency depends unmet =>
          rw [← hdependency dependency depends] at unmet
          exact absurd (met dependency depends) unmet
      | called attempt' _ called' =>
          exact Step.untimed_result_eq (hsame step hstep attempt attempt' called called')

/-- Two reports show the same under a name, the time apart. -/
def Report.AgreesOn (report report' : Report) (name : String) : Prop :=
  (report.step? name).map StepResult.untimed = (report'.step? name).map StepResult.untimed

theorem Report.AgreesOn.statusIn_eq {report report' : Report} {name : String}
    (h : report.AgreesOn report' name) :
    statusIn report.steps name = statusIn report'.steps name := by
  have hstatus (found : Option StepResult) :
      found.map StepResult.status = (found.map StepResult.untimed).map StepResult.status := by
    cases found <;> rfl
  have hfound : (report.step? name).map StepResult.status =
      (report'.step? name).map StepResult.status := by
    rw [hstatus, hstatus (report'.step? name), h]
  exact hfound

/-! ## Two orders of the same steps -/

theorem eq_filterMap_of_forall₂ {α β : Type} {f : α → Option β} {xs : List α} {ys : List β}
    (h : List.Forall₂ (fun x y => f x = some y) xs ys) : ys = xs.filterMap f := by
  induction h with
  | nil => rfl
  | cons hxy _ ih => rw [List.filterMap_cons_some hxy, ← ih]

namespace Runner

variable (runner runner' : Runner σ) (service : String)

/-- The report of a complete run is made of what it shows under the names of the
steps. -/
theorem untimed_steps_eq_filterMap (stamp : Timestamp) (world : σ) :
    (runner.report service .collectAll stamp world).steps.map StepResult.untimed =
      runner.steps.filterMap fun step =>
        ((runner.report service .collectAll stamp world).step? step.name).map
          StepResult.untimed := by
  have hfates := runner.fates_report service stamp world
  have hfound : List.Forall₂
      (fun step result =>
        (runner.report service .collectAll stamp world).step? step.name = some result)
      runner.steps (runner.report service .collectAll stamp world).steps := by
    rw [List.forall₂_iff_zip]
    refine ⟨hfates.length_eq, fun {step result} hzip => ?_⟩
    exact runner.step?_report_eq service stamp world (List.forall₂_zip hfates hzip)
      (List.of_mem_zip hzip).2
  rw [← List.map_filterMap, ← eq_filterMap_of_forall₂ hfound]

/-- A report knows the names of the steps only. -/
theorem step?_report_eq_none (policy : RunPolicy) (stamp : Timestamp) (world : σ) {name : String}
    (hname : name ∉ runner.steps.map Step.name) :
    (runner.report service policy stamp world).step? name = none := by
  rw [Report.step?, List.find?_eq_none]
  intro result hresult hfound
  have hknown : result.name ∈ runner.steps.map Step.name :=
    (runner.course_report service policy stamp world).names_results.subset
      (List.mem_map_of_mem hresult)
  exact hname (of_decide_eq_true hfound ▸ hknown)

section

variable {stamp stamp' : Timestamp} {world world' : σ}

variable (hperm : runner.steps.Perm runner'.steps)
  (hsame : SameOutcomes runner.steps (runner.calls service .collectAll stamp world)
    (runner'.calls service .collectAll stamp' world'))

include hperm hsame

/-- **Two complete runs agree about every step.** The induction follows the order
of the first; the second is only asked what became of the step. -/
theorem agreesOn_of_mem :
    ∀ step ∈ runner.steps, (runner.report service .collectAll stamp world).AgreesOn
      (runner'.report service .collectAll stamp' world') step.name := by
  refine forall_names_of_fits runner.accepted (by simp) fun step hstep hdependency => ?_
  obtain ⟨result, hresult, hfate⟩ :=
    exists_mem_of_forall₂ (runner.fates_report service stamp world) step hstep
  obtain ⟨result', hresult', hfate'⟩ := exists_mem_of_forall₂
    (runner'.fates_report service stamp' world') step (hperm.mem_iff.mp hstep)
  rw [Report.AgreesOn, runner.step?_report_eq service stamp world hfate hresult,
    runner'.step?_report_eq service stamp' world' hfate' hresult', Option.map_some,
    Option.map_some, Option.some_inj]
  exact hfate.untimed_eq hfate'
    (fun dependency hdepends => (hdependency dependency hdepends).statusIn_eq) hstep hsame

/-- The results are those of the other run, put in the order of the steps. -/
theorem perm_untimed_steps :
    ((runner.report service .collectAll stamp world).steps.map StepResult.untimed).Perm
      ((runner'.report service .collectAll stamp' world').steps.map StepResult.untimed) := by
  have hagree := runner.agreesOn_of_mem runner' service hperm hsame
  have hfirst := runner.untimed_steps_eq_filterMap service stamp world
  have hsecond := runner'.untimed_steps_eq_filterMap service stamp' world'
  rw [hfirst, hsecond, List.filterMap_congr hagree]
  exact hperm.filterMap _

/-- Two complete runs agree about every name, since they know the same names. -/
theorem agreesOn (name : String) :
    (runner.report service .collectAll stamp world).AgreesOn
      (runner'.report service .collectAll stamp' world') name := by
  by_cases hname : name ∈ runner.steps.map Step.name
  · obtain ⟨step, hstep, rfl⟩ := List.mem_map.mp hname
    exact runner.agreesOn_of_mem runner' service hperm hsame step hstep
  · have hname' : name ∉ runner'.steps.map Step.name := by
      rwa [← (hperm.map Step.name).mem_iff]
    rw [Report.AgreesOn, runner.step?_report_eq_none service _ _ _ hname,
      runner'.step?_report_eq_none service _ _ _ hname']

/-- Two complete runs come to the same verdict. -/
theorem verdict_eq_of_perm :
    (runner.report service .collectAll stamp world).verdict =
      (runner'.report service .collectAll stamp' world').verdict := by
  have hgood (results : List StepResult) : (∀ result ∈ results, result.status = .succeeded) ↔
      ∀ result ∈ results.map StepResult.untimed, result.status = .succeeded := by
    simp [StepResult.untimed]
  apply Verdict.eq_of_successful_iff
  rw [verdict_report_iff, verdict_report_iff, hgood, hgood (Report.steps _)]
  simp only [(runner.perm_untimed_steps runner' service hperm hsame).mem_iff]

end

end Runner

/-- **The order of the steps does not matter.** If the outcome of each step is a
matter of the step alone, complete runs over two orders of the same steps leave the
same results up to that order, under each name the same one, and come to the same
verdict; and inline the one is content exactly if the other is. The times may
differ, and so may the worlds. -/
theorem reports_agree_across_orderings (runner runner' : Runner σ) (service : String)
    (hperm : runner.steps.Perm runner'.steps) {outcome : Step σ → Except StepFailure Unit}
    (houtcome : ∀ step ∈ runner.steps, ∀ world,
      (Step.bounded step.limitMicros (step.probe.run world).value).result = outcome step)
    (stamp stamp' : Timestamp) (world world' : σ) (records records' : τ) :
    let report := runner.report service .collectAll stamp world
    let report' := runner'.report service .collectAll stamp' world'
    let inline :=
      ((testSteps runner service (.inline : Purpose τ) stamp).run (world, records)).value
    let inline' :=
      ((testSteps runner' service (.inline : Purpose τ) stamp').run (world', records')).value
    (report.steps.map StepResult.untimed).Perm (report'.steps.map StepResult.untimed) ∧
      (∀ name, (report.step? name).map StepResult.untimed =
        (report'.step? name).map StepResult.untimed) ∧
      report.verdict = report'.verdict ∧
      (inline = .ok none ↔ inline' = .ok none) := by
  intro report report' inline inline'
  have houtcome' : ∀ step ∈ runner'.steps, ∀ world,
      (Step.bounded step.limitMicros (step.probe.run world).value).result = outcome step :=
    fun step hstep => houtcome step (hperm.mem_iff.mpr hstep)
  have hsame : SameOutcomes runner.steps (runner.calls service .collectAll stamp world)
      (runner'.calls service .collectAll stamp' world') :=
    runner.sameOutcomes_of_outcomes runner' service hperm.symm.subset houtcome
  have hverdict := runner.verdict_eq_of_perm runner' service hperm hsame
  -- inline, each order is compared with the complete run over the same order
  have hfast : (runner.report service .failFast stamp world).verdict = report.verdict :=
    runner.failFast_verdict service
      (runner.sameOutcomes_of_outcomes runner service (List.Subset.refl _) houtcome)
  have hfast' : (runner'.report service .failFast stamp' world').verdict = report'.verdict :=
    runner'.failFast_verdict service
      (runner'.sameOutcomes_of_outcomes runner' service (List.Subset.refl _) houtcome')
  refine ⟨runner.perm_untimed_steps runner' service hperm hsame,
    runner.agreesOn runner' service hperm hsame, hverdict, ?_⟩
  rw [inline_eq_ok_none_iff, inline_eq_ok_none_iff, hfast, hfast', hverdict]

/-- What comes of the steps of a check in which the users come too late. -/
def slowUsersOutcome (name : String) : Except StepFailure Unit :=
  if name = "GetUsers" then .error (Step.timeoutFailure 5000) else .ok ()

/-- The check with late users, with the owners asked first. -/
def ownersFirstCheck : Runner Nat where
  steps :=
    [slowUsersStep "CheckAccess" none none,
     slowUsersStep "GetOwners" (some "CheckAccess") none,
     slowUsersStep "GetUsers" (some "CheckAccess") (some 5000),
     slowUsersStep "GetTables" (some "GetUsers") none]
  accepted := by decide

theorem perm_ownersFirstCheck : slowUsersCheck.steps.Perm ownersFirstCheck.steps :=
  .cons _ (List.perm_append_singleton _ [_, _])

theorem reports_agree_with_ownersFirst :
    slowUsersCheck.steps.Perm ownersFirstCheck.steps ∧
      (∀ step ∈ slowUsersCheck.steps, ∀ calls,
        (Step.bounded step.limitMicros (step.probe.run calls).value).result =
          slowUsersOutcome step.name) ∧
      ((ownersFirstCheck.report "Neo4j" .collectAll .epoch 7).step? "GetTables").map
          StepResult.untimed = some (.skipped "GetTables" "GetUsers") ∧
      (ownersFirstCheck.report "Neo4j" .collectAll .epoch 7).verdict = .failed := by
  have houtcome : ∀ step ∈ slowUsersCheck.steps, ∀ calls,
      (Step.bounded step.limitMicros (step.probe.run calls).value).result =
        slowUsersOutcome step.name := by
    simp only [slowUsersCheck, List.forall_mem_cons]
    exact ⟨fun _ => rfl, fun _ => rfl, fun _ => rfl, fun _ => rfl, by simp⟩
  obtain ⟨_, hresults, hverdict, _⟩ := reports_agree_across_orderings slowUsersCheck
    ownersFirstCheck "Neo4j" perm_ownersFirstCheck houtcome .epoch .epoch 0 7 () ()
  exact ⟨perm_ownersFirstCheck, houtcome, (hresults "GetTables").symm.trans rfl,
    hverdict.symm.trans (by decide)⟩

end Preflight
