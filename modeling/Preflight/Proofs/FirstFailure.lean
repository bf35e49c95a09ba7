import Preflight.Proofs.Blame

/-!
# Stopping at the first failure

The two policies are the same loop with different exits, so a run that stops at
the first failure and one that goes on to the end go through the same steps as
long as nothing has failed. Up to there nothing is skipped either: every
dependency is settled, and everything settled has succeeded (`AllSucceeded`).
The fail-fast run ends with the failure, and what the complete run adds after it
changes neither the verdict nor the first failure.

The worlds of the two runs need not be the same, nor need the probes answer the
same whenever they are called. What is asked for is said of the calls that were
made: the same came of each step that both runs called (`SameOutcomes`). How long
the probes took may differ, and then the results differ in that as well; so they
are compared through a view, which may leave the time out.

## Main results

* `Course.failFast_throughFailure` — the fail-fast run is the complete run, cut.
* `Runner.failFast_cuts_collectAll` — the same for reports and calls.
-/

namespace Preflight

variable {σ : Type}

/-! ## The results up to the first failure -/

/-- The results up to the first failed one, which is the last of them. -/
def throughFailure (results : List StepResult) : List StepResult :=
  (results.takeWhile fun result => result.status ≠ .failed) ++
    (results.find? fun result => result.status = .failed).toList

section Cut

variable {result : StepResult} (results : List StepResult)

theorem throughFailure_cons_of_failed (h : result.status = .failed) :
    throughFailure (result :: results) = [result] := by
  simp [throughFailure, h]

theorem throughFailure_cons_of_ne (h : result.status ≠ .failed) :
    throughFailure (result :: results) = result :: throughFailure results := by
  simp [throughFailure, h]

/-- The cut keeps the first failure, and shows no other. -/
theorem find?_throughFailure :
    ((throughFailure results).find? fun result => result.status = .failed) =
      results.find? fun result => result.status = .failed := by
  induction results with
  | nil => rfl
  | cons head tail ih =>
      by_cases hfailed : head.status = .failed
      · simp [throughFailure_cons_of_failed tail hfailed, hfailed]
      · rw [throughFailure_cons_of_ne tail hfailed]
        simp [hfailed, ih]

end Cut

/-! ## Before the first failure -/

/-- Every step that is settled has succeeded. -/
def AllSucceeded (settled : List (String × StepStatus)) : Prop :=
  ∀ name ∈ settled.map Prod.fst, settled.lookup name = some .succeeded

namespace AllSucceeded

variable {settled : List (String × StepStatus)} {step : Step σ} {rest : List (Step σ)}

theorem nil : AllSucceeded [] := by
  intro name hname
  cases hname

theorem cons (h : AllSucceeded settled) (name : String) :
    AllSucceeded ((name, .succeeded) :: settled) := by
  intro other hother
  by_cases hname : other = name
  · subst hname
    simp
  · have hmem : other ∈ settled.map Prod.fst := by simpa [hname] using hother
    have hkey : (other == name) = false := by simpa using hname
    rw [List.lookup_cons, hkey]
    exact h other hmem

/-- Nothing stands in the way of a step whose dependency is declared. -/
theorem obstacle?_eq_none (h : AllSucceeded settled)
    (hfits : stepsFault? (settled.map Prod.fst) (step :: rest) = none) :
    Runner.obstacle? settled step = none := by
  obtain ⟨_, hdeclared, _⟩ := stepsFault?_cons_eq_none_iff.mp hfits
  rw [Runner.obstacle?_eq_none_iff]
  intro dependency hdepends
  exact h dependency (hdeclared dependency hdepends)

end AllSucceeded

/-- A probe whose step has not failed has succeeded. -/
theorem Step.status_result_eq_succeeded {step : Step σ} {attempt : Attempt}
    (h : (step.result attempt).status ≠ .failed) :
    (step.result attempt).status = .succeeded := by
  cases hcase : (step.result attempt).status with
  | succeeded => rfl
  | failed => exact absurd hcase h
  | skipped => exact absurd hcase (step.status_result_ne_skipped attempt)

namespace Course

variable {settled : List (String × StepStatus)} {steps : List (Step σ)} {calls calls' : List Call}
  {results results' : List StepResult}

/-- A run that stops at the first failure skips nothing: the failure that could
make it skip has ended it. -/
theorem failFast_ne_skipped (fast : Course .failFast settled steps calls results)
    (hfits : stepsFault? (settled.map Prod.fst) steps = none) (hgood : AllSucceeded settled) :
    ∀ result ∈ results, result.status ≠ .skipped := by
  induction fast with
  | done => simp
  | skip dependency blocked _ _ =>
      rw [hgood.obstacle?_eq_none hfits] at blocked
      cases blocked
  | @halt _ step _ attempt _ _ _ =>
      intro result hresult
      obtain rfl := List.mem_singleton.mp hresult
      exact step.status_result_ne_skipped attempt
  | @call settled step rest calls results attempt _ goesOn _ ih =>
      obtain ⟨_, _, hrest⟩ := stepsFault?_cons_eq_none_iff.mp hfits
      have hstatus : (step.result attempt).status = .succeeded :=
        Step.status_result_eq_succeeded fun hfailed => goesOn ⟨hfailed, rfl⟩
      rw [hstatus] at ih
      intro result hresult
      rcases List.mem_cons.mp hresult with rfl | hresult
      · exact step.status_result_ne_skipped attempt
      · exact ih hrest (hgood.cons step.name) result hresult

/-- **The fail-fast run is the complete run, cut after its first failure.** The
induction is on the fail-fast run. As long as everything settled has succeeded,
the complete run makes the same call, and a result that looks the same through
`view` has the same status, so both runs see the failure at the same step. -/
theorem failFast_throughFailure {β : Type} (view : StepResult → β)
    (hview : ∀ result result', view result = view result' → result.status = result'.status)
    (fast : Course .failFast settled steps calls results)
    (full : Course .collectAll settled steps calls' results')
    (hfits : stepsFault? (settled.map Prod.fst) steps = none) (hgood : AllSucceeded settled)
    (hsame : ∀ step ∈ steps, ∀ attempt attempt', ⟨step.name, attempt⟩ ∈ calls →
      ⟨step.name, attempt'⟩ ∈ calls' → view (step.result attempt) = view (step.result attempt')) :
    results.map view = (throughFailure results').map view ∧
      calls.map Call.name = (calls'.map Call.name).take results.length := by
  induction fast generalizing calls' results' with
  | done =>
      cases full with
      | done => exact ⟨rfl, rfl⟩
  | skip dependency blocked _ _ =>
      rw [hgood.obstacle?_eq_none hfits] at blocked
      cases blocked
  | @halt settled step rest attempt free failed _ =>
      cases full with
      | skip dependency blocked _ =>
          rw [free] at blocked
          cases blocked
      | halt _ _ _ failFast => cases failFast
      | @call _ _ _ _ results' attempt' _ _ later =>
          have hlook := hsame step List.mem_cons_self attempt attempt' List.mem_cons_self
            List.mem_cons_self
          have hfailed : (step.result attempt').status = .failed :=
            (hview _ _ hlook).symm.trans failed
          rw [throughFailure_cons_of_failed results' hfailed]
          exact ⟨by rw [List.map_singleton, List.map_singleton, hlook], rfl⟩
  | @call settled step rest calls results attempt free goesOn _ ih =>
      cases full with
      | skip dependency blocked _ =>
          rw [free] at blocked
          cases blocked
      | halt _ _ _ failFast => cases failFast
      | @call _ _ _ calls' results' attempt' _ _ later =>
          obtain ⟨_, _, hrest⟩ := stepsFault?_cons_eq_none_iff.mp hfits
          have hlook := hsame step List.mem_cons_self attempt attempt' List.mem_cons_self
            List.mem_cons_self
          have hstatus : (step.result attempt).status = .succeeded :=
            Step.status_result_eq_succeeded fun hfailed => goesOn ⟨hfailed, rfl⟩
          have hstatus' : (step.result attempt').status = .succeeded :=
            (hview _ _ hlook).symm.trans hstatus
          rw [hstatus] at ih
          rw [hstatus'] at later
          have hsameRest : ∀ next ∈ rest, ∀ answer answer', ⟨next.name, answer⟩ ∈ calls →
              ⟨next.name, answer'⟩ ∈ calls' →
              view (next.result answer) = view (next.result answer') :=
            fun next hnext answer answer' hcall hcall' =>
              hsame next (List.mem_cons_of_mem _ hnext) answer answer'
                (List.mem_cons_of_mem _ hcall) (List.mem_cons_of_mem _ hcall')
          obtain ⟨hresults, hnames⟩ := ih later hrest (hgood.cons step.name) hsameRest
          rw [throughFailure_cons_of_ne results' (by simp [hstatus'])]
          constructor
          · rw [List.map_cons, List.map_cons, hlook, hresults]
          · rw [List.map_cons, List.map_cons, List.length_cons, List.take_succ_cons, hnames]

end Course

/-! ## The same outcomes -/

/-- The result without the time it took. -/
def StepResult.untimed (result : StepResult) : StepResult := { result with elapsedMs := 0 }

theorem StepResult.status_eq_of_untimed_eq {result result' : StepResult}
    (h : result.untimed = result'.untimed) : result.status = result'.status := by
  have hstatus : result.untimed.status = result'.untimed.status := by rw [h]
  exact hstatus

/-- The same came of each step that two runs called, be it sooner or later. -/
def SameOutcomes (steps : List (Step σ)) (calls calls' : List Call) : Prop :=
  ∀ step ∈ steps, ∀ attempt attempt', ⟨step.name, attempt⟩ ∈ calls →
    ⟨step.name, attempt'⟩ ∈ calls' →
    (Step.bounded step.limitMicros attempt).result =
      (Step.bounded step.limitMicros attempt').result

/-- Each step that two runs called took the same time in both. -/
def SameTimes (calls calls' : List Call) : Prop :=
  ∀ call ∈ calls, ∀ call' ∈ calls', call.name = call'.name →
    call.attempt.tookMs = call'.attempt.tookMs

/-- If the outcome of each step is a matter of the step alone, any two runs over
these steps see the same outcomes. The outcome of a step is what its bound leaves of
the answer of its probe. -/
theorem Runner.sameOutcomes_of_outcomes (runner runner' : Runner σ) (service : String)
    {policy policy' : RunPolicy} {stamp stamp' : Timestamp} {world world' : σ}
    (hsteps : runner'.steps ⊆ runner.steps) {outcome : Step σ → Except StepFailure Unit}
    (houtcome : ∀ step ∈ runner.steps, ∀ world,
      (Step.bounded step.limitMicros (step.probe.run world).value).result = outcome step) :
    SameOutcomes runner.steps (runner.calls service policy stamp world)
      (runner'.calls service policy' stamp' world') := by
  intro step hstep attempt attempt' hcall hcall'
  obtain ⟨caller, hcaller, hname, seen, rfl⟩ :=
    runner.exists_probe_of_mem_calls service policy stamp world _ hcall
  obtain ⟨caller', hcaller', hname', seen', rfl⟩ :=
    runner'.exists_probe_of_mem_calls service policy' stamp' world' _ hcall'
  have hsame : caller = step := runner.eq_of_name_eq hcaller hstep hname
  have hsame' : caller' = step := runner.eq_of_name_eq (hsteps hcaller') hstep hname'
  rw [hsame, hsame', houtcome step hstep, houtcome step hstep]

/-- So they do if each step has an answer of its own. -/
theorem Runner.sameOutcomes_of_answers (runner : Runner σ) (service : String)
    {policy policy' : RunPolicy} {stamp stamp' : Timestamp} {world world' : σ}
    {answer : String → Attempt}
    (hanswer : ∀ step ∈ runner.steps, ∀ world, (step.probe.run world).value = answer step.name) :
    SameOutcomes runner.steps (runner.calls service policy stamp world)
      (runner.calls service policy' stamp' world') := by
  have houtcome : ∀ step ∈ runner.steps, ∀ world,
      (Step.bounded step.limitMicros (step.probe.run world).value).result =
        (Step.bounded step.limitMicros (answer step.name)).result := by
    intro step hstep world
    rw [hanswer step hstep world]
  exact runner.sameOutcomes_of_outcomes runner service (List.Subset.refl _) houtcome

/-- Without its time, a result is made of the name and the answer alone. -/
theorem Step.untimed_result_eq {step : Step σ} {attempt attempt' : Attempt}
    (h : (Step.bounded step.limitMicros attempt).result =
      (Step.bounded step.limitMicros attempt').result) :
    (step.result attempt).untimed = (step.result attempt').untimed := by
  unfold Step.result Runner.resultOf
  rw [h]
  cases (Step.bounded step.limitMicros attempt').result with
  | ok _ => rfl
  | error failure => rfl

theorem Step.result_eq {step : Step σ} {attempt attempt' : Attempt}
    (h : (Step.bounded step.limitMicros attempt).result =
      (Step.bounded step.limitMicros attempt').result)
    (htime : attempt.tookMs = attempt'.tookMs) :
    step.result attempt = step.result attempt' := by
  have htook : (Step.bounded step.limitMicros attempt).tookMs =
      (Step.bounded step.limitMicros attempt').tookMs := by
    unfold Step.bounded
    split
    · exact htime
    · rw [htime]
      split
      · rfl
      · exact htime
  unfold Step.result Runner.resultOf
  rw [h, htook]

/-- The first failure can be looked for without the times. -/
theorem find?_untimed (results : List StepResult) :
    ((results.map StepResult.untimed).find? fun result => result.status = .failed) =
      (results.find? fun result => result.status = .failed).map StepResult.untimed := by
  rw [List.find?_map]
  rfl

theorem Verdict.eq_of_successful_iff {verdict verdict' : Verdict}
    (h : verdict = .successful ↔ verdict' = .successful) : verdict = verdict' := by
  cases verdict with
  | successful => exact (h.mp rfl).symm
  | failed =>
      cases verdict' with
      | successful => exact h.mpr rfl
      | failed => rfl

/-! ## Reports that are cut -/

namespace Runner

variable (runner : Runner σ) (service : String) {stamp stamp' : Timestamp} {world world' : σ}

theorem failFast_report_ne_skipped (stamp : Timestamp) (world : σ) :
    ∀ result ∈ (runner.report service .failFast stamp world).steps, result.status ≠ .skipped :=
  (runner.course_report service .failFast stamp world).failFast_ne_skipped runner.accepted .nil

/-- The probes that a fail-fast run calls are those of its results. -/
theorem failFast_names_calls (stamp : Timestamp) (world : σ) :
    (runner.calls service .failFast stamp world).map Call.name =
      (runner.report service .failFast stamp world).steps.map StepResult.name := by
  rw [(runner.course_report service .failFast stamp world).names_calls,
    List.filter_eq_self.mpr]
  intro result hresult
  simpa using runner.failFast_report_ne_skipped service stamp world result hresult

section SameOutcomes

variable (hsame : SameOutcomes runner.steps (runner.calls service .failFast stamp world)
  (runner.calls service .collectAll stamp' world'))

include hsame

theorem failFast_untimed_steps :
    (runner.report service .failFast stamp world).steps.map StepResult.untimed =
        (throughFailure (runner.report service .collectAll stamp' world').steps).map
          StepResult.untimed ∧
      (runner.calls service .failFast stamp world).map Call.name =
        ((runner.calls service .collectAll stamp' world').map Call.name).take
          (runner.report service .failFast stamp world).steps.length := by
  apply (runner.course_report service .failFast stamp world).failFast_throughFailure
    StepResult.untimed (fun _ _ h => StepResult.status_eq_of_untimed_eq h)
    (runner.course_report service .collectAll stamp' world') runner.accepted .nil
  intro step hstep attempt attempt' hcall hcall'
  exact Step.untimed_result_eq (hsame step hstep attempt attempt' hcall hcall')

theorem failFast_steps
    (htimes : SameTimes (runner.calls service .failFast stamp world)
      (runner.calls service .collectAll stamp' world')) :
    (runner.report service .failFast stamp world).steps =
      throughFailure (runner.report service .collectAll stamp' world').steps := by
  have h := (runner.course_report service .failFast stamp world).failFast_throughFailure
    id (fun _ _ h => congrArg StepResult.status h)
    (runner.course_report service .collectAll stamp' world') runner.accepted .nil
    (fun step hstep attempt attempt' hcall hcall' =>
      Step.result_eq (hsame step hstep attempt attempt' hcall hcall')
        (htimes _ hcall _ hcall' rfl))
  simpa only [List.map_id] using h.1

/-- Both policies find the same first failure. -/
theorem failFast_firstFailure? :
    (runner.report service .failFast stamp world).firstFailure?.map StepResult.untimed =
      (runner.report service .collectAll stamp' world').firstFailure?.map
        StepResult.untimed := by
  rw [Report.firstFailure?, ← find?_untimed, (runner.failFast_untimed_steps service hsame).1,
    find?_untimed, find?_throughFailure, Report.firstFailure?]

/-- Both policies come to the same verdict. -/
theorem failFast_verdict :
    (runner.report service .failFast stamp world).verdict =
      (runner.report service .collectAll stamp' world').verdict := by
  apply Verdict.eq_of_successful_iff
  rw [verdict_report_iff_firstFailure?, verdict_report_iff_firstFailure?,
    ← Option.map_eq_none_iff, runner.failFast_firstFailure? service hsame,
    Option.map_eq_none_iff]

end SameOutcomes

end Runner

/-- **The two policies agree on the same outcomes.** The fail-fast report holds
the results of the complete one up to its first failure, or all of them if there
is none, with the times of its own calls; it called just the probes of these
results, which the complete run called first; both reports have the same verdict;
and nothing in the fail-fast one is skipped. -/
theorem Runner.failFast_cuts_collectAll (runner : Runner σ) (service : String)
    (stamp stamp' : Timestamp) (world world' : σ)
    (hsame : SameOutcomes runner.steps (runner.calls service .failFast stamp world)
      (runner.calls service .collectAll stamp' world')) :
    let fast := runner.report service .failFast stamp world
    let full := runner.report service .collectAll stamp' world'
    let fastCalls := runner.calls service .failFast stamp world
    let fullCalls := runner.calls service .collectAll stamp' world'
    let cut := (full.steps.takeWhile fun result => result.status ≠ .failed) ++
      full.firstFailure?.toList
    fast.steps.map StepResult.untimed = cut.map StepResult.untimed ∧
      (SameTimes fastCalls fullCalls → fast.steps = cut) ∧
      fastCalls.map Call.name = (fullCalls.map Call.name).take fast.steps.length ∧
      fastCalls.map Call.name = fast.steps.map StepResult.name ∧
      fast.verdict = full.verdict ∧
      ∀ result ∈ fast.steps, result.status ≠ .skipped := by
  intro fast full fastCalls fullCalls cut
  obtain ⟨hsteps, hcalls⟩ := runner.failFast_untimed_steps service hsame
  exact ⟨hsteps, runner.failFast_steps service hsame, hcalls,
    runner.failFast_names_calls service stamp world, runner.failFast_verdict service hsame,
    runner.failFast_report_ne_skipped service stamp world⟩

/-- The answers of a check in which the list of users takes its time. -/
def slowUsersAnswer (name : String) : Attempt :=
  if name = "GetUsers" then ⟨9, .ok ()⟩ else ⟨1, .ok ()⟩

/-- A step with these answers, in a world that counts the calls. -/
def slowUsersStep (name : String) (dependsOn : Option String) (limitMicros : Option Nat) :
    Step Nat where
  name := name
  dependsOn := dependsOn
  limitMicros := limitMicros
  probe := Act.change fun calls => (slowUsersAnswer name, calls + 1)

/-- A check in which the users come too late, the tables need the users and the
owners do not. -/
def slowUsersCheck : Runner Nat where
  steps :=
    [slowUsersStep "CheckAccess" none none,
     slowUsersStep "GetUsers" (some "CheckAccess") (some 5000),
     slowUsersStep "GetTables" (some "GetUsers") none,
     slowUsersStep "GetOwners" (some "CheckAccess") none]
  accepted := by decide

theorem slowUsersCheck_answers : ∀ step ∈ slowUsersCheck.steps, ∀ calls,
    (step.probe.run calls).value = slowUsersAnswer step.name := by
  simp only [slowUsersCheck, List.forall_mem_cons]
  exact ⟨fun _ => rfl, fun _ => rfl, fun _ => rfl, fun _ => rfl, by simp⟩

theorem Runner.failFast_cuts_slowUsersCheck :
    SameOutcomes slowUsersCheck.steps (slowUsersCheck.calls "Neo4j" .failFast .epoch 0)
        (slowUsersCheck.calls "Neo4j" .collectAll .epoch 7) ∧
      (slowUsersCheck.report "Neo4j" .failFast .epoch 0).steps.map StepResult.untimed =
        [.succeeded "CheckAccess" 0, .failed "GetUsers" (Step.timeoutFailure 5000) 0] ∧
      (slowUsersCheck.report "Neo4j" .failFast .epoch 0).verdict = .failed := by
  have hsame : SameOutcomes slowUsersCheck.steps
      (slowUsersCheck.calls "Neo4j" .failFast .epoch 0)
      (slowUsersCheck.calls "Neo4j" .collectAll .epoch 7) :=
    slowUsersCheck.sameOutcomes_of_answers "Neo4j" slowUsersCheck_answers
  obtain ⟨hsteps, _, _, _, hverdict, _⟩ :=
    Runner.failFast_cuts_collectAll slowUsersCheck "Neo4j" .epoch .epoch 0 7 hsame
  exact ⟨hsame, hsteps.trans rfl, hverdict.trans (by decide)⟩

end Preflight
