import Preflight.Report
import Preflight.Step

/-!
# Running steps

A `Runner` is a list of steps that fits together: all names are different, and a
step depends only on a step declared before it. `Runner.of?` checks this and
names the first step that breaks it.

Steps are run in the order of the list. A step whose dependency did not succeed
is skipped, without its probe being called. Under `RunPolicy.failFast` the run
ends with the first failure; under `RunPolicy.collectAll` it goes on to the end.

## Main results

* `Runner.steps_of?` — an accepted list of steps is kept as it is.
-/

namespace Preflight

/-- Why a list of steps does not fit together. -/
inductive StepsFault where
  | duplicate (name : String)
  /-- A step depends on one that is not declared before it. -/
  | undeclared (name dependency : String)
  deriving DecidableEq, Repr

/-- The sentence for readers. -/
def StepsFault.message : StepsFault → String
  | duplicate name => "duplicate step name '" ++ name ++ "'"
  | undeclared name dependency =>
      "step '" ++ name ++ "' depends on '" ++ dependency ++ "', which is not declared before it"

/-- The first fault of a list of steps that follows the steps named in `seen`. -/
def stepsFault? {σ : Type} : List String → List (Step σ) → Option StepsFault
  | _, [] => none
  | seen, step :: rest =>
      if step.name ∈ seen then some (.duplicate step.name)
      else
        match step.dependsOn with
        | none => stepsFault? (step.name :: seen) rest
        | some dependency =>
            if dependency ∈ seen then stepsFault? (step.name :: seen) rest
            else some (.undeclared step.name dependency)

/-- Steps that fit together. -/
structure Runner (σ : Type) where
  steps : List (Step σ)
  accepted : stepsFault? [] steps = none

/-- What a run does after a failure. -/
inductive RunPolicy where
  /-- End the run. -/
  | failFast
  /-- Go on, so that the report is complete. -/
  | collectAll
  deriving DecidableEq, Repr

/-- The name of a policy. -/
def RunPolicy.name : RunPolicy → String
  | failFast => "FailFast"
  | collectAll => "CollectAll"

/-- The results of a run and the time that its probes took together. -/
structure RunRecord where
  results : List StepResult
  elapsedMs : Nat

namespace Runner

variable {σ : Type}

/-- The runner for a list of steps, if they fit together. -/
def of? (steps : List (Step σ)) : Except StepsFault (Runner σ) :=
  match h : stepsFault? [] steps with
  | none => .ok ⟨steps, h⟩
  | some fault => .error fault

theorem steps_of? {steps : List (Step σ)} {runner : Runner σ} (h : of? steps = .ok runner) :
    runner.steps = steps := by
  unfold of? at h
  split at h
  · cases h; rfl
  · cases h

/-- The diagnostic form. -/
def diagnostic (runner : Runner σ) : String :=
  "TestRunner \x7b steps: [" ++ Text.joined ", " (runner.steps.map Step.diagnostic) ++ "] \x7d"

/-! ## Events of a run -/

/-- An event of the runner about a service. -/
def event (level : LogLevel) (message service : String) (fields : List (String × Json)) : Event :=
  ⟨level, .runner, message, ("service", .string service) :: fields⟩

/-- An event about one step. -/
def stepEvent (level : LogLevel) (message service : String) (step : String)
    (fields : List (String × Json)) : Event :=
  event level message service (("step", .string step) :: fields)

/-! ## The run -/

/-- The greatest number of milliseconds that a result shows. -/
def greatestMs : Nat := 0xFFFFFFFFFFFFFFFF

/-- The result that an attempt of a step leaves. -/
def resultOf (name : String) (attempt : Attempt) : StepResult :=
  let elapsed := min attempt.tookMs greatestMs
  match attempt.result with
  | .ok () => .succeeded name elapsed
  | .error failure => .failed name failure elapsed

/-- The event that tells how a step ended. -/
def endEvent (service : String) (name : String) (attempt : Attempt) : Event :=
  match attempt.result with
  | .ok () =>
      stepEvent .debug "step succeeded" service name
        [("elapsed_ms", .ofNat (min attempt.tookMs greatestMs))]
  | .error failure =>
      stepEvent .warn "step failed" service name
        [("kind", .string failure.kind.displayName), ("error", .string failure.message)]

/-- Call the probe of a step within its bound. -/
def attempt (service : String) (step : Step σ) : Act σ Attempt := do
  Act.note (stepEvent .debug "running step" service step.name [])
  let attempt ← step.probe
  let attempt := Step.bounded step.limitMicros attempt
  Act.note (endEvent service step.name attempt)
  return attempt

/-- The dependency of a step that keeps it from being run, given the statuses so far. -/
def obstacle? (settled : List (String × StepStatus)) (step : Step σ) : Option String :=
  step.dependsOn.filter fun dependency => settled.lookup dependency ≠ some .succeeded

/-- Run the steps of a list; `settled` holds the statuses of the steps before them. -/
def runFrom (service : String) (policy : RunPolicy) :
    List (String × StepStatus) → List (Step σ) → Act σ RunRecord
  | _, [] => return ⟨[], 0⟩
  | settled, step :: rest =>
      match obstacle? settled step with
      | some dependency => do
          Act.note (stepEvent .debug "skipping step" service step.name
            [("dependency", .string dependency)])
          let later ← runFrom service policy ((step.name, .skipped) :: settled) rest
          return ⟨.skipped step.name dependency :: later.results, later.elapsedMs⟩
      | none => do
          let attempt ← attempt service step
          let result := resultOf step.name attempt
          if result.status = .failed ∧ policy = .failFast then
            Act.note (stepEvent .debug "fail-fast: not running remaining steps" service step.name
              [])
            return ⟨[result], attempt.tookMs⟩
          else
            let later ← runFrom service policy ((step.name, result.status) :: settled) rest
            return ⟨result :: later.results, attempt.tookMs + later.elapsedMs⟩

/-- Run the steps and make a report, which is dated `stamp`. -/
def run (runner : Runner σ) (service : String) (policy : RunPolicy) (stamp : Timestamp) :
    Act σ (Report × Nat) := do
  Act.note (event .info "running test connection" service
    [("steps", .ofNat runner.steps.length), ("policy", .string policy.name)])
  let record ← runFrom service policy [] runner.steps
  let report := Report.of service record.results stamp
  Act.note (event .info "test connection finished" service
    [("status", .string report.verdict.variantName)])
  return (report, record.elapsedMs)

end Runner

end Preflight
