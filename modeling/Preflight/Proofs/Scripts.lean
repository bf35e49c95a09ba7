import Mathlib
import Preflight.Proofs.Calls

/-!
# Scripted probes

A scripted probe knows beforehand what comes of its calls: each call takes the next
outcome of its script, and the last one stays. The scripts are the world of the
runs, so a run begins where the one before it left them, and what a run skips or
does not get to is still to come in the next.

An outcome is taken when the probe is called, before anyone knows whether it will
be in time. So `Played`, which follows the calls through the scripts, has one rule
for all calls, and the bounds do not occur in it. They decide what is recorded of a
call and how long it keeps the run: that is said of every run, scripted or not. The
clock by which it is said is any measure of the world that every probe moves on by
the time its bound lets it take (`Runner.clock_run`); a list of the calls made so
far is one.

## Main results

* `Played.attempt_eq_outcome` — the calls of one probe take its outcomes in a row.
* `Runner.recorded_report` — what the results tell of the calls.
* `Runner.elapsed_run` — the time of a run is that of its calls.
* `Runner.scripted_runs_in_succession` — all of this for runs one after another.
-/

namespace Preflight

variable {σ : Type}

/-! ## Scripts -/

/-- What the probes still have to say, by the names of their steps. -/
abbrev Scripts : Type := String → List Attempt

namespace Script

/-- The outcome of a probe that has nothing to say. -/
def silence : Attempt := ⟨0, .ok ()⟩

/-- What the next call comes to, and what is left of the script after it. -/
def next : List Attempt → Attempt × List Attempt
  | [] => (silence, [])
  | [last] => (last, [last])
  | outcome :: second :: later => (outcome, second :: later)

/-- What the call of this number comes to, counted from zero. -/
def outcome (script : List Attempt) (k : Nat) : Attempt :=
  (script[k]?.or script.getLast?).getD silence

theorem outcome_zero (script : List Attempt) : outcome script 0 = (next script).1 := by
  rcases script with _ | ⟨first, _ | ⟨second, later⟩⟩
  · rfl
  · rfl
  · rfl

/-- After one call the numbers are one less. -/
theorem outcome_succ (script : List Attempt) (k : Nat) :
    outcome script (k + 1) = outcome (next script).2 k := by
  rcases script with _ | ⟨first, _ | ⟨second, later⟩⟩
  · rfl
  · cases k with
    | zero => rfl
    | succ k => simp [outcome, next]
  · simp [outcome, next]

end Script

/-- The scripts after a call of the probe of this name. -/
def Scripts.after (scripts : Scripts) (name : String) : Scripts :=
  Function.update scripts name (Script.next (scripts name)).2

/-- The probe that says what its script has next. -/
def Script.play (name : String) : Act Scripts Attempt :=
  Act.change fun scripts => ((Script.next (scripts name)).1, scripts.after name)

/-- The calls lead from one state of the scripts to another. -/
inductive Played : Scripts → List Call → Scripts → Prop where
  | nil {scripts : Scripts} : Played scripts [] scripts
  | cons {scripts left : Scripts} {later : List Call} (name : String)
      (played : Played (scripts.after name) later left) :
      Played scripts (⟨name, (Script.next (scripts name)).1⟩ :: later) left

namespace Played

variable {scripts between left : Scripts} {calls later : List Call}

theorem append (h : Played scripts calls between) (hlater : Played between later left) :
    Played scripts (calls ++ later) left := by
  induction h with
  | nil => exact hlater
  | cons name _ ih => exact .cons name (ih hlater)

/-- One more call takes what is next in the scripts that are left. -/
theorem concat (h : Played scripts calls left) (name : String) :
    Played scripts (calls ++ [⟨name, (Script.next (left name)).1⟩]) (left.after name) :=
  h.append (.cons name .nil)

/-- **The calls of one probe take its outcomes in a row**, whatever is called
between them. -/
theorem attempt_eq_outcome (h : Played scripts calls left) (name : String) (k : Nat)
    (call : Call) (hcall : (calls.filter fun call => call.name = name)[k]? = some call) :
    call.attempt = Script.outcome (scripts name) k := by
  induction h generalizing k with
  | nil => simp at hcall
  | @cons scripts _ later other _ ih =>
      by_cases hname : other = name
      · subst hname
        rw [List.filter_cons_of_pos (by simp)] at hcall
        cases k with
        | zero =>
            obtain rfl := Option.some.inj hcall
            exact (Script.outcome_zero _).symm
        | succ k =>
            rw [ih k hcall, Script.outcome_succ, Scripts.after, Function.update_self]
      · rw [List.filter_cons_of_neg (by simpa using hname)] at hcall
        rw [ih k hcall, Scripts.after, Function.update_of_ne (Ne.symm hname)]

end Played

/-! ## What is recorded of a call -/

/-- A result tells one answer only. -/
theorem StepResult.Tells.answer_unique {result : StepResult}
    {answer answer' : Except StepFailure Unit} (h : result.Tells answer)
    (h' : result.Tells answer') : answer = answer' := by
  rcases answer with ⟨kind, message, detail⟩ | _ <;>
    rcases answer' with ⟨kind', message', detail'⟩ | _
  · obtain ⟨_, hmessage, hkind, hdetail⟩ := h
    obtain ⟨_, hmessage', hkind', hdetail'⟩ := h'
    obtain rfl : message = message' := Option.some.inj (hmessage.symm.trans hmessage')
    obtain rfl : kind = kind' := Option.some.inj (hkind.symm.trans hkind')
    obtain rfl : detail = detail' := hdetail.symm.trans hdetail'
    rfl
  · cases h.1.symm.trans h'.1
  · cases h.1.symm.trans h'.1
  · rfl

/-- What is to be recorded of an attempt under a bound. The result tells of the
bound if the attempt came too late, and else what the attempt came to. -/
structure StepResult.Records (result : StepResult) (limit? : Option Nat) (attempt : Attempt) :
    Prop where
  late : ∀ limit, limit? = some limit → Step.deadlineMs limit < attempt.tookMs →
    result.Tells (.error (Step.timeoutFailure limit))
  inTime : (∀ limit, limit? = some limit → attempt.tookMs ≤ Step.deadlineMs limit) →
    result.Tells attempt.result
  /-- Nothing else is told of a bound, unless the probe itself uses these words. -/
  late_of_tells : ∀ limit, limit? = some limit →
    attempt.result ≠ .error (Step.timeoutFailure limit) →
      result.Tells (.error (Step.timeoutFailure limit)) → Step.deadlineMs limit < attempt.tookMs

theorem Step.records_result (step : Step σ) (attempt : Attempt) :
    (step.result attempt).Records step.limitMicros attempt where
  late _ hlimit hlate := Step.tells_result_of_late hlimit hlate
  inTime hearly := Step.tells_result_of_inTime hearly
  late_of_tells limit hlimit hwords htells := by
    by_contra hearly
    have hinTime : step.InTime attempt := by
      intro other hother
      rw [hlimit, Option.some_inj] at hother
      rw [← hother]
      exact Nat.le_of_not_lt hearly
    exact hwords ((Step.tells_result_of_inTime hinTime).answer_unique htells)

namespace Runner

/-- The bound of the step of a name. -/
def limit? (runner : Runner σ) (name : String) : Option Nat :=
  (runner.steps.find? fun step => step.name = name).bind Step.limitMicros

theorem limit?_eq (runner : Runner σ) {step : Step σ} (hstep : step ∈ runner.steps) :
    runner.limit? step.name = step.limitMicros := by
  rw [limit?, find?_eq_some_of_nodup runner.nodup_names hstep, Option.bind_some]

/-- **What the results tell of the calls.** The results that are not skipped belong
one by one to the calls, and record them under the bounds of their steps. -/
theorem recorded_report (runner : Runner σ) (service : String) (policy : RunPolicy)
    (stamp : Timestamp) (world : σ) :
    List.Forall₂ (fun call result => result.name = call.name ∧
        result.Records (runner.limit? call.name) call.attempt)
      (runner.calls service policy stamp world)
      ((runner.report service policy stamp world).steps.filter fun result =>
        result.status ≠ .skipped) := by
  refine (runner.course_report service policy stamp world).results_of_calls.imp ?_
  rintro call _ ⟨step, hstep, hname, rfl⟩
  refine ⟨(step.name_result _).trans hname, ?_⟩
  rw [← hname, runner.limit?_eq hstep]
  exact step.records_result _

end Runner

/-! ## The time of a run -/

/-- How long an attempt keeps a run under a bound. -/
def Attempt.spentMs (attempt : Attempt) (limit? : Option Nat) : Nat :=
  match limit? with
  | none => attempt.tookMs
  | some limit => min attempt.tookMs (Step.deadlineMs limit)

theorem Step.tookMs_bounded (limit? : Option Nat) (attempt : Attempt) :
    (Step.bounded limit? attempt).tookMs = attempt.spentMs limit? := by
  cases limit? with
  | none => rfl
  | some limit =>
      simp only [Step.bounded, Attempt.spentMs]
      by_cases hlate : deadlineMs limit < attempt.tookMs
      · rw [if_pos hlate, Nat.min_eq_right (Nat.le_of_lt hlate)]
      · rw [if_neg hlate, Nat.min_eq_left (Nat.le_of_not_lt hlate)]

namespace Runner

/-- **A clock in the world is moved on by the time of the run**, if every probe
moves it on by the time that its bound lets it take. -/
theorem clock_runFrom (clock : σ → Nat) (service : String) (policy : RunPolicy)
    {steps : List (Step σ)}
    (hprobe : ∀ step ∈ steps, ∀ world, clock (step.probe.run world).world =
      clock world + (step.probe.run world).value.spentMs step.limitMicros)
    (settled : List (String × StepStatus)) (world : σ) :
    clock ((runFrom service policy settled steps).run world).world =
      clock world + ((runFrom service policy settled steps).run world).value.elapsedMs := by
  induction steps generalizing settled world with
  | nil => rfl
  | cons step rest ih =>
      obtain ⟨hstep, hrest⟩ := List.forall_mem_cons.mp hprobe
      cases hblocked : obstacle? settled step with
      | some dependency =>
          obtain ⟨hvalue, hworld⟩ := run_of_blocked service policy step rest world hblocked
          rw [hvalue, hworld]
          exact ih hrest _ world
      | none =>
          by_cases hhalts : (step.result (step.probe.run world).value).status = .failed ∧
              policy = .failFast
          · obtain ⟨hvalue, hworld⟩ := run_of_halts service policy step rest world hblocked hhalts
            rw [hvalue, hworld, hstep, Step.tookMs_bounded]
          · obtain ⟨hvalue, hworld⟩ :=
              run_of_goesOn service policy step rest world hblocked hhalts
            rw [hvalue, hworld, ih hrest, hstep, Step.tookMs_bounded, Nat.add_assoc]

/-- The time that calls take together. -/
def spentMs (runner : Runner σ) (calls : List Call) : Nat :=
  (calls.map fun call => call.attempt.spentMs (runner.limit? call.name)).sum

theorem spentMs_concat (runner : Runner σ) (calls : List Call) (call : Call) :
    runner.spentMs (calls ++ [call]) =
      runner.spentMs calls + call.attempt.spentMs (runner.limit? call.name) := by
  simp [spentMs]

/-- **The time of a run is that of its calls.** The list of the calls is the clock
here. -/
theorem elapsed_run (runner : Runner σ) (service : String) (policy : RunPolicy)
    (stamp : Timestamp) (world : σ) :
    ((runner.run service policy stamp).run world).value.2 =
      runner.spentMs (runner.calls service policy stamp world) := by
  let clock (watched : σ × List Call) : Nat := runner.spentMs watched.2
  have hprobe : ∀ step ∈ runner.watched.steps, ∀ watched,
      clock (step.probe.run watched).world =
        clock watched + (step.probe.run watched).value.spentMs step.limitMicros := by
    intro step hstep watched
    obtain ⟨source, hsource, rfl⟩ := List.mem_map.mp hstep
    have hcall := runner.spentMs_concat watched.2
      ⟨source.name, (source.probe.run watched.1).value⟩
    rw [runner.limit?_eq hsource] at hcall
    exact hcall
  have hclock := clock_runFrom clock service policy hprobe [] (world, [])
  have hstart : clock (world, []) = 0 := rfl
  rw [hstart, Nat.zero_add] at hclock
  rw [← (runner.run_watched service policy stamp world []).1]
  exact hclock.symm

end Runner

/-! ## Runs one after another -/

/-- What is known of one run. -/
structure RunLog where
  report : Report
  calls : List Call
  elapsedMs : Nat

namespace Runner

/-- One run in a world. -/
def log (runner : Runner σ) (service : String) (policy : RunPolicy) (stamp : Timestamp)
    (world : σ) : RunLog where
  report := runner.report service policy stamp world
  calls := runner.calls service policy stamp world
  elapsedMs := ((runner.run service policy stamp).run world).value.2

/-- The runs of a plan one after another, each in the world that the one before it
left. -/
def logs (runner : Runner σ) (service : String) : List (RunPolicy × Timestamp) → σ → List RunLog
  | [], _ => []
  | (policy, stamp) :: rest, world =>
      runner.log service policy stamp world ::
        runner.logs service rest ((runner.run service policy stamp).run world).world

/-- What holds of every run in every world holds of all runs of a plan. -/
theorem forall_mem_logs {P : RunLog → Prop} (runner : Runner σ) (service : String)
    (h : ∀ policy stamp world, P (runner.log service policy stamp world))
    (plan : List (RunPolicy × Timestamp)) (world : σ) :
    ∀ log ∈ runner.logs service plan world, P log := by
  induction plan generalizing world with
  | nil => simp [logs]
  | cons entry rest ih =>
      obtain ⟨policy, stamp⟩ := entry
      exact List.forall_mem_cons.mpr ⟨h policy stamp world, ih _⟩

section Scripted

variable (runner : Runner Scripts) (service : String)
  (hscripted : ∀ step ∈ runner.steps, step.probe = Script.play step.name)

include hscripted

/-- The calls of a run lead from the scripts before it to those after it. -/
theorem played_calls (policy : RunPolicy) (stamp : Timestamp) (scripts : Scripts) :
    Played scripts (runner.calls service policy stamp scripts)
      ((runner.run service policy stamp).run scripts).world := by
  have hkeeps : ∀ step ∈ runner.watched.steps,
      Act.Keeps (fun watched => Played scripts watched.2 watched.1) step.probe := by
    intro step hstep
    obtain ⟨source, hsource, rfl⟩ := List.mem_map.mp hstep
    rintro ⟨left, earlier⟩ hearlier
    have hprobe : source.watched.probe = (Script.play source.name).logged (Call.mk source.name) :=
      congrArg (Act.logged _) (hscripted source hsource)
    rw [hprobe]
    exact hearlier.concat source.name
  rw [← (runner.run_watched service policy stamp scripts []).2]
  exact runner.watched.keeps_run service policy stamp hkeeps (scripts, []) .nil

theorem exists_played_logs (plan : List (RunPolicy × Timestamp)) (scripts : Scripts) :
    ∃ left, Played scripts ((runner.logs service plan scripts).flatMap RunLog.calls) left := by
  induction plan generalizing scripts with
  | nil => exact ⟨scripts, .nil⟩
  | cons entry rest ih =>
      obtain ⟨policy, stamp⟩ := entry
      obtain ⟨left, hlater⟩ := ih ((runner.run service policy stamp).run scripts).world
      exact ⟨left, (runner.played_calls service hscripted policy stamp scripts).append hlater⟩

end Scripted

/-- **Scripted runs in succession.** The calls of a probe, counted over all runs,
take the outcomes of its script in a row, the late ones too. In every run, each call
has its result: it tells of the bound exactly if the bound was broken, and otherwise
tells the outcome. The run takes as long as its calls together, a late one counting
up to the end of its bound. -/
theorem scripted_runs_in_succession (runner : Runner Scripts) (service : String)
    (hscripted : ∀ step ∈ runner.steps, step.probe = Script.play step.name)
    (plan : List (RunPolicy × Timestamp)) (scripts : Scripts) :
    let logs := runner.logs service plan scripts
    (∀ name k call,
      ((logs.flatMap RunLog.calls).filter fun call => call.name = name)[k]? = some call →
        call.attempt = Script.outcome (scripts name) k) ∧
    ∀ log ∈ logs,
      List.Forall₂ (fun call result => result.name = call.name ∧
          result.Records (runner.limit? call.name) call.attempt)
        log.calls (log.report.steps.filter fun result => result.status ≠ .skipped) ∧
      log.elapsedMs =
        (log.calls.map fun call => call.attempt.spentMs (runner.limit? call.name)).sum := by
  intro logs
  obtain ⟨left, hplayed⟩ := runner.exists_played_logs service hscripted plan scripts
  refine ⟨hplayed.attempt_eq_outcome, runner.forall_mem_logs service ?_ plan scripts⟩
  intro policy stamp world
  exact ⟨runner.recorded_report service policy stamp world,
    runner.elapsed_run service policy stamp world⟩

/-- A check that opens something within 1.5 ms and then reads from it. -/
def slowStartCheck : Runner Scripts where
  steps :=
    [⟨"Open", none, some 1500, Script.play "Open"⟩,
     ⟨"Read", some "Open", none, Script.play "Read"⟩]
  accepted := by decide

/-- The first opening is too slow, the others end with their bound. -/
def slowStartScripts (name : String) : List Attempt :=
  if name = "Open" then [⟨3, .ok ()⟩, ⟨2, .ok ()⟩]
  else [⟨4, .error ⟨.query, "no such row", none⟩⟩, ⟨1, .ok ()⟩]

theorem scripted_runs_slowStart :
    let plan := [(.collectAll, .epoch), (.failFast, .epoch), (.collectAll, .epoch)]
    let logs := slowStartCheck.logs "Neo4j" plan slowStartScripts
    (∀ step ∈ slowStartCheck.steps, step.probe = Script.play step.name) ∧
      logs.map RunLog.elapsedMs = [2, 6, 3] ∧
      ∃ call, ((logs.flatMap RunLog.calls).filter fun call => call.name = "Open")[1]? =
        some call ∧ call.attempt = ⟨2, .ok ()⟩ := by
  intro plan logs
  have hscripted : ∀ step ∈ slowStartCheck.steps, step.probe = Script.play step.name := by
    simp [slowStartCheck]
  obtain ⟨hcalls, _⟩ :=
    scripted_runs_in_succession slowStartCheck "Neo4j" hscripted plan slowStartScripts
  exact ⟨hscripted, by decide, _, rfl, hcalls "Open" 1 _ rfl⟩

end Runner

end Preflight
