import Preflight.Proofs.Alike

/-!
# The course of a run

Two things about a run are not in its report: which probes were called, and what
they answered. `Runner.watched` makes them visible. It runs the same steps in a
world with a list beside it, where each probe writes down its calls; that the
list is only looked at is `Runner.run_watched`.

`Course` then tells, without acts and worlds, how calls and results of a run
belong together: one rule for a step that is skipped, one for a failure that ends
the run, one for every other call. `Runner.exists_course` reads the course off
the executed run, so it is a consequence of the run and no assumption about it;
all that follows is proved by induction on courses.

## Main results

* `Runner.course_report` — the calls and the results of a run form a course.
* `Course.names_calls` — the probes called are those of the results that are not
  skipped, in the same order.
-/

namespace Preflight

variable {σ ω α δ : Type}

/-! ## Watched runs -/

/-- One call of a probe: the step it belongs to, and what came of it. -/
structure Call where
  name : String
  attempt : Attempt

/-- An act that also writes down what came of it, at the end of a list beside the
world. -/
def Act.logged (entry : α → δ) (act : Act ω α) : Act (ω × List δ) α := fun (world, entries) =>
  let done := act.run world
  ⟨done.value, (done.world, entries ++ [entry done.value]), done.events⟩

/-- A step whose probe writes down its calls. -/
def Step.watched (step : Step σ) : Step (σ × List Call) where
  name := step.name
  dependsOn := step.dependsOn
  limitMicros := step.limitMicros
  probe := step.probe.logged (Call.mk step.name)

theorem Step.alike_watched (step : Step σ) :
    Step.Alike (fun (world : σ) (watched : σ × List Call) => world = watched.1)
      step step.watched where
  name := rfl
  dependsOn := rfl
  limitMicros := rfl
  probe := by
    rintro world ⟨_, calls⟩ rfl
    exact ⟨rfl, rfl, rfl⟩

theorem forall₂_alike_watched (steps : List (Step σ)) :
    List.Forall₂ (Step.Alike fun (world : σ) (watched : σ × List Call) => world = watched.1)
      steps (steps.map Step.watched) := by
  rw [List.forall₂_map_right_iff, List.forall₂_same]
  exact fun step _ => step.alike_watched

namespace Runner

/-- The runner whose probes write down their calls. -/
def watched (runner : Runner σ) : Runner (σ × List Call) where
  steps := runner.steps.map Step.watched
  accepted := by
    rw [← stepsFault?_eq_of_alike (forall₂_alike_watched runner.steps)]
    exact runner.accepted

/-- The report of a run. -/
def report (runner : Runner σ) (service : String) (policy : RunPolicy) (stamp : Timestamp)
    (world : σ) : Report :=
  ((runner.run service policy stamp).run world).value.1

/-- The calls of probes in a run, in their order. -/
def calls (runner : Runner σ) (service : String) (policy : RunPolicy) (stamp : Timestamp)
    (world : σ) : List Call :=
  ((runner.watched.run service policy stamp).run (world, [])).world.2

/-- To watch a run changes nothing in what it comes to and in the world it leaves. -/
theorem run_watched (runner : Runner σ) (service : String) (policy : RunPolicy)
    (stamp : Timestamp) (world : σ) (calls : List Call) :
    let watched := (runner.watched.run service policy stamp).run (world, calls)
    let unwatched := (runner.run service policy stamp).run world
    watched.value = unwatched.value ∧ watched.world.1 = unwatched.world := by
  obtain ⟨hvalue, hworld, _⟩ := alike_run runner runner.watched service policy stamp
    (forall₂_alike_watched runner.steps) world (world, calls) rfl
  exact ⟨hvalue.symm, hworld.symm⟩

theorem report_watched (runner : Runner σ) (service : String) (policy : RunPolicy)
    (stamp : Timestamp) (world : σ) (calls : List Call) :
    runner.watched.report service policy stamp (world, calls) =
      runner.report service policy stamp world := by
  rw [report, report, (runner.run_watched service policy stamp world calls).1]

/-- Every call in a run is a call of the probe of a step. -/
theorem exists_probe_of_mem_calls (runner : Runner σ) (service : String) (policy : RunPolicy)
    (stamp : Timestamp) (world : σ) :
    ∀ call ∈ runner.calls service policy stamp world, ∃ step ∈ runner.steps,
      step.name = call.name ∧ ∃ world, call.attempt = (step.probe.run world).value := by
  have hkeeps : ∀ step ∈ runner.watched.steps, Act.Keeps
      (fun watched : σ × List Call => ∀ call ∈ watched.2, ∃ step ∈ runner.steps,
        step.name = call.name ∧ ∃ world, call.attempt = (step.probe.run world).value)
      step.probe := by
    intro step hstep
    obtain ⟨source, hsource, rfl⟩ := List.mem_map.mp hstep
    rintro ⟨world, earlier⟩ hearlier call hcall
    rcases List.mem_append.mp hcall with hcall | hcall
    · exact hearlier call hcall
    · obtain rfl := List.mem_singleton.mp hcall
      exact ⟨source, hsource, rfl, world, rfl⟩
  exact runner.watched.keeps_run service policy stamp hkeeps (world, []) (by simp)

/-- The verdict of a report is read off its steps. -/
theorem verdict_report_iff (runner : Runner σ) (service : String) (policy : RunPolicy)
    (stamp : Timestamp) (world : σ) :
    (runner.report service policy stamp world).verdict = .successful ↔
      ∀ result ∈ (runner.report service policy stamp world).steps, result.status = .succeeded :=
  Report.verdict_of_eq_successful_iff service _ stamp

end Runner

/-! ## What a result tells -/

namespace StepResult

/-- The result shows an answer of a probe, and nothing else. -/
def Tells (result : StepResult) : Except StepFailure Unit → Prop
  | .ok () =>
      result.status = .succeeded ∧ result.message = none ∧ result.kind = none ∧
        result.errorLog = none
  | .error failure =>
      result.status = .failed ∧ result.message = some failure.message ∧
        result.kind = some failure.kind ∧ result.errorLog = failure.detail

theorem Tells.status_ne_skipped {result : StepResult} {answer : Except StepFailure Unit}
    (h : result.Tells answer) : result.status ≠ .skipped := by
  cases answer with
  | ok _ => simp [h.1]
  | error failure => simp [h.1]

/-- A failed result has a kind and a message to show. -/
theorem Tells.of_failed {result : StepResult} {answer : Except StepFailure Unit}
    (h : result.Tells answer) (hfailed : result.status = .failed) :
    ∃ kind message, result.kind = some kind ∧ result.message = some message := by
  cases answer with
  | ok _ => simp [h.1] at hfailed
  | error failure => exact ⟨failure.kind, failure.message, h.2.2.1, h.2.1⟩

end StepResult

/-- The result of a step whose probe came to an attempt. -/
def Step.result (step : Step σ) (attempt : Attempt) : StepResult :=
  Runner.resultOf step.name (Step.bounded step.limitMicros attempt)

theorem Runner.tells_resultOf (name : String) (attempt : Attempt) :
    (resultOf name attempt).Tells attempt.result := by
  obtain ⟨tookMs, _ | _⟩ := attempt
  · exact ⟨rfl, rfl, rfl, rfl⟩
  · exact ⟨rfl, rfl, rfl, rfl⟩

@[simp] theorem Step.name_result (step : Step σ) (attempt : Attempt) :
    (step.result attempt).name = step.name := by
  unfold Step.result Runner.resultOf
  split <;> rfl

theorem Step.tells_result (step : Step σ) (attempt : Attempt) :
    (step.result attempt).Tells (Step.bounded step.limitMicros attempt).result :=
  Runner.tells_resultOf _ _

theorem Step.status_result_ne_skipped (step : Step σ) (attempt : Attempt) :
    (step.result attempt).status ≠ .skipped :=
  (step.tells_result attempt).status_ne_skipped

/-- The attempt was over when the bound of the step was. -/
def Step.InTime (step : Step σ) (attempt : Attempt) : Prop :=
  ∀ limit, step.limitMicros = some limit → attempt.tookMs ≤ Step.deadlineMs limit

theorem Step.tells_result_of_inTime {step : Step σ} {attempt : Attempt}
    (h : step.InTime attempt) : (step.result attempt).Tells attempt.result := by
  have hbounded : Step.bounded step.limitMicros attempt = attempt := by
    unfold Step.bounded
    split
    · rfl
    · rename_i limit hlimit
      rw [if_neg (Nat.not_lt.mpr (h limit hlimit))]
  simpa only [hbounded] using step.tells_result attempt

theorem Step.tells_result_of_late {step : Step σ} {attempt : Attempt} {limit : Nat}
    (hlimit : step.limitMicros = some limit) (hlate : Step.deadlineMs limit < attempt.tookMs) :
    (step.result attempt).Tells (.error (Step.timeoutFailure limit)) := by
  have h := step.tells_result attempt
  simpa only [hlimit, Step.bounded, if_pos hlate] using h

/-! ## Courses -/

/-- How a run goes on. `Course policy settled steps calls results` says that,
after steps with the statuses in `settled`, the calls are made for `steps` in
this order and the results are left. -/
inductive Course (policy : RunPolicy) :
    List (String × StepStatus) → List (Step σ) → List Call → List StepResult → Prop where
  | done {settled : List (String × StepStatus)} : Course policy settled [] [] []
  /-- The step it depends on did not succeed. -/
  | skip {settled : List (String × StepStatus)} {step : Step σ} {rest : List (Step σ)}
      {calls : List Call} {results : List StepResult} (dependency : String)
      (blocked : Runner.obstacle? settled step = some dependency)
      (later : Course policy ((step.name, .skipped) :: settled) rest calls results) :
      Course policy settled (step :: rest) calls (.skipped step.name dependency :: results)
  /-- The probe is called, and its failure ends the run. -/
  | halt {settled : List (String × StepStatus)} {step : Step σ} {rest : List (Step σ)}
      (attempt : Attempt) (free : Runner.obstacle? settled step = none)
      (failed : (step.result attempt).status = .failed) (failFast : policy = .failFast) :
      Course policy settled (step :: rest) [⟨step.name, attempt⟩] [step.result attempt]
  /-- The probe is called, and the run goes on. -/
  | call {settled : List (String × StepStatus)} {step : Step σ} {rest : List (Step σ)}
      {calls : List Call} {results : List StepResult} (attempt : Attempt)
      (free : Runner.obstacle? settled step = none)
      (goesOn : ¬ ((step.result attempt).status = .failed ∧ policy = .failFast))
      (later : Course policy ((step.name, (step.result attempt).status) :: settled) rest calls
        results) :
      Course policy settled (step :: rest) (⟨step.name, attempt⟩ :: calls)
        (step.result attempt :: results)

namespace Runner

section OneStep

variable (service : String) (policy : RunPolicy) {settled : List (String × StepStatus)}
  (step : Step σ) (rest : List (Step σ)) (world : σ)

/-- A blocked step leaves the world and the time to the steps after it. -/
theorem run_of_blocked {dependency : String}
    (hblocked : obstacle? settled step = some dependency) :
    let later := (runFrom service policy ((step.name, .skipped) :: settled) rest).run world
    let all := (runFrom service policy settled (step :: rest)).run world
    all.value = ⟨.skipped step.name dependency :: later.value.results, later.value.elapsedMs⟩ ∧
      all.world = later.world := by
  intro later all
  simp only [all, runFrom, hblocked]
  exact ⟨rfl, rfl⟩

/-- A failure under the fail-fast policy is the last thing a run sees. -/
theorem run_of_halts (hfree : obstacle? settled step = none)
    (hhalts : (step.result (step.probe.run world).value).status = .failed ∧
      policy = .failFast) :
    let answer := (step.probe.run world).value
    let all := (runFrom service policy settled (step :: rest)).run world
    all.value = ⟨[step.result answer], (Step.bounded step.limitMicros answer).tookMs⟩ ∧
      all.world = (step.probe.run world).world := by
  intro answer all
  have hbranch : (resultOf step.name ((attempt service step).run world).value).status = .failed ∧
      policy = .failFast := hhalts
  simp only [all, runFrom, hfree, Act.run_bind, if_pos hbranch]
  exact ⟨rfl, rfl⟩

/-- Any other call hands its world and its status on to the steps after it. -/
theorem run_of_goesOn (hfree : obstacle? settled step = none)
    (hgoesOn : ¬ ((step.result (step.probe.run world).value).status = .failed ∧
      policy = .failFast)) :
    let answer := (step.probe.run world).value
    let later := (runFrom service policy ((step.name, (step.result answer).status) :: settled)
      rest).run (step.probe.run world).world
    let all := (runFrom service policy settled (step :: rest)).run world
    all.value = ⟨step.result answer :: later.value.results,
        (Step.bounded step.limitMicros answer).tookMs + later.value.elapsedMs⟩ ∧
      all.world = later.world := by
  intro answer later all
  have hbranch : ¬ ((resultOf step.name ((attempt service step).run world).value).status =
      .failed ∧ policy = .failFast) := hgoesOn
  simp only [all, runFrom, hfree, Act.run_bind, if_neg hbranch]
  exact ⟨rfl, rfl⟩

end OneStep

/-- **A watched run has a course.** The list beside the world grows by the calls
of the course, and the results of the run are those of the course. -/
theorem exists_course (service : String) (policy : RunPolicy) (steps : List (Step σ))
    (settled : List (String × StepStatus)) (world : σ) (earlier : List Call) :
    let done := (runFrom service policy settled (steps.map Step.watched)).run (world, earlier)
    ∃ calls, done.world.2 = earlier ++ calls ∧
      Course policy settled steps calls done.value.results := by
  induction steps generalizing settled world earlier with
  | nil => exact ⟨[], (List.append_nil earlier).symm, .done⟩
  | cons step rest ih =>
      rw [List.map_cons]
      cases hblocked : obstacle? settled step with
      | some dependency =>
          obtain ⟨hvalue, hworld⟩ := run_of_blocked service policy step.watched
            (rest.map Step.watched) (world, earlier) hblocked
          obtain ⟨calls, hcalls, hcourse⟩ := ih ((step.name, .skipped) :: settled) world earlier
          refine ⟨calls, ?_, ?_⟩
          · rw [hworld]
            exact hcalls
          · rw [hvalue]
            exact .skip dependency hblocked hcourse
      | none =>
          let answer := (step.probe.run world).value
          by_cases hhalts : (step.result answer).status = .failed ∧ policy = .failFast
          · obtain ⟨hvalue, hworld⟩ := run_of_halts service policy step.watched
              (rest.map Step.watched) (world, earlier) hblocked hhalts
            refine ⟨[⟨step.name, answer⟩], ?_, ?_⟩
            · rw [hworld]
              rfl
            · rw [hvalue]
              exact .halt answer hblocked hhalts.1 hhalts.2
          · obtain ⟨hvalue, hworld⟩ := run_of_goesOn service policy step.watched
              (rest.map Step.watched) (world, earlier) hblocked hhalts
            obtain ⟨calls, hcalls, hcourse⟩ :=
              ih ((step.name, (step.result answer).status) :: settled)
                (step.probe.run world).world (earlier ++ [⟨step.name, answer⟩])
            refine ⟨⟨step.name, answer⟩ :: calls, ?_, ?_⟩
            · rw [hworld, List.append_cons]
              exact hcalls
            · rw [hvalue]
              exact .call answer hblocked hhalts hcourse

/-- **The calls and the results of a run form a course**, which starts without
any settled step. -/
theorem course_report (runner : Runner σ) (service : String) (policy : RunPolicy)
    (stamp : Timestamp) (world : σ) :
    Course policy [] runner.steps (runner.calls service policy stamp world)
      (runner.report service policy stamp world).steps := by
  obtain ⟨calls, hcalls, hcourse⟩ := exists_course service policy runner.steps [] world []
  have hnames : runner.calls service policy stamp world = calls := hcalls
  rw [hnames, ← runner.report_watched service policy stamp world []]
  exact hcourse

end Runner

namespace Course

variable {policy : RunPolicy} {settled : List (String × StepStatus)} {steps : List (Step σ)}
  {calls : List Call} {results : List StepResult}

/-- A run gets to its steps in their order, and leaves a result for each it gets
to. -/
theorem names_results (course : Course policy settled steps calls results) :
    results.map StepResult.name <+: steps.map Step.name := by
  induction course with
  | done => exact List.prefix_rfl
  | skip _ _ _ ih => exact List.cons_prefix_cons.mpr ⟨rfl, ih⟩
  | halt attempt _ _ _ =>
      exact List.cons_prefix_cons.mpr ⟨Step.name_result _ attempt, List.nil_prefix⟩
  | call attempt _ _ _ ih => exact List.cons_prefix_cons.mpr ⟨Step.name_result _ attempt, ih⟩

/-- The probes called are those of the results that are not skipped. -/
theorem names_calls (course : Course policy settled steps calls results) :
    calls.map Call.name =
      (results.filter fun result => result.status ≠ .skipped).map StepResult.name := by
  induction course with
  | done => rfl
  | skip dependency _ _ ih => simpa [StepResult.skipped] using ih
  | halt attempt _ failed _ => simp [failed]
  | @call _ step _ _ _ attempt _ _ _ ih =>
      simp [Step.status_result_ne_skipped step attempt, ih]

end Course

end Preflight
