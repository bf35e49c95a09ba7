import Preflight.Failure
import Preflight.Timestamp

/-!
# Results of steps and the report made of them

A run leaves one `StepResult` for each step it got to, and a `Report` collects
them in the order of the run. The verdict of a report is read off its results
when it is made: it is good exactly if every step succeeded, so a report without
steps is good. A skipped step is no failure of its own, but it does spoil the
verdict.

## Main results

* `verdict_of_eq_successful_iff` — the verdict of a report that `Report.of` made.
-/

namespace Preflight

/-- How one step ended. -/
inductive StepStatus where
  | succeeded
  | failed
  /-- The step was not run, since the step it depends on did not succeed. -/
  | skipped
  deriving DecidableEq, Repr, Inhabited

namespace StepStatus

/-- The name of a status in documents. -/
def wireName : StepStatus → String
  | succeeded => "Succeeded"
  | failed => "Failed"
  | skipped => "Skipped"

/-- All statuses by name. -/
def known : List (String × StepStatus) :=
  [succeeded, failed, skipped].map fun status => (status.wireName, status)

end StepStatus

/-- What a run says as a whole. -/
inductive Verdict where
  | successful
  | failed
  deriving DecidableEq, Repr, Inhabited

namespace Verdict

/-- The name of a verdict in documents. -/
def wireName : Verdict → String
  | successful => "Successful"
  | failed => "Failed"

/-- The name of a verdict in diagnostic texts. -/
def variantName : Verdict → String
  | successful => "Succeeded"
  | failed => "Failed"

/-- All verdicts by name. -/
def known : List (String × Verdict) :=
  [successful, failed].map fun verdict => (verdict.wireName, verdict)

end Verdict

/-- The result of one step. -/
structure StepResult where
  name : String
  status : StepStatus
  message : Option String
  kind : Option FailureKind
  /-- The full text of the cause of a failure. -/
  errorLog : Option String
  elapsedMs : Nat
  deriving DecidableEq, Repr

namespace StepResult

/-- The result of a step whose probe succeeded. -/
def succeeded (name : String) (elapsedMs : Nat) : StepResult where
  name := name
  status := .succeeded
  message := none
  kind := none
  errorLog := none
  elapsedMs := elapsedMs

/-- The result of a step whose probe failed. -/
def failed (name : String) (failure : StepFailure) (elapsedMs : Nat) : StepResult where
  name := name
  status := .failed
  message := some failure.message
  kind := some failure.kind
  errorLog := failure.detail
  elapsedMs := elapsedMs

/-- The sentence that a skipped step shows. -/
def skipMessage (dependency : String) : String :=
  "skipped: prerequisite step '" ++ dependency ++ "' did not succeed"

/-- The result of a step that was not run for the sake of another. -/
def skipped (name dependency : String) : StepResult where
  name := name
  status := .skipped
  message := some (skipMessage dependency)
  kind := none
  errorLog := none
  elapsedMs := 0

/-- Did the step succeed? -/
def isSuccess (result : StepResult) : Bool := result.status = .succeeded

end StepResult

/-- The report of one run against one service. -/
structure Report where
  service : String
  verdict : Verdict
  steps : List StepResult
  updatedAt : Timestamp
  deriving DecidableEq, Repr

namespace Report

/-- The verdict on a list of results. -/
def verdictOf (steps : List StepResult) : Verdict :=
  if steps.all StepResult.isSuccess then .successful else .failed

/-- The report on a list of results. -/
def of (service : String) (steps : List StepResult) (now : Timestamp) : Report where
  service := service
  verdict := verdictOf steps
  steps := steps
  updatedAt := now

/-- Does the report call the run good? -/
def isSuccess (report : Report) : Bool := report.verdict = .successful

/-- The first step that ran and failed. -/
def firstFailure? (report : Report) : Option StepResult :=
  report.steps.find? fun step => step.status = .failed

/-- The first result under a name. -/
def step? (report : Report) (name : String) : Option StepResult :=
  report.steps.find? fun step => step.name = name

/-- A report made from results is good exactly if each of them is. -/
theorem verdict_of_eq_successful_iff (service : String) (steps : List StepResult)
    (now : Timestamp) :
    (of service steps now).verdict = .successful ↔ ∀ step ∈ steps, step.status = .succeeded := by
  simp [of, verdictOf, StepResult.isSuccess]

end Report

end Preflight
