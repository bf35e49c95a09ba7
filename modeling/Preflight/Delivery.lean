import Preflight.Runner
import Preflight.Workflow

/-!
# Delivering a report

A report is made for one of two purposes. *Inline*, the caller wants to go on
only if the checks passed: a good report is dropped, a bad one becomes the error
that names the first failed step. For a *workflow*, the report is recorded in a
store and handed back whatever its verdict; only the store can make this fail.

The purpose decides how the steps are run: a caller who is stopped by the first
failure needs no further step, a workflow shows them all.
-/

namespace Preflight

/-- A place where the reports of workflows are recorded. -/
structure ReportStore (τ : Type) where
  record : Workflow → Report → Act τ (Except CheckError Unit)

/-- A store that refuses every report. -/
def ReportStore.refusing {τ : Type} (error : CheckError) : ReportStore τ where
  record _ _ := return .error error

/-- What a report is made for. -/
inductive Purpose (τ : Type) where
  | inline
  | workflow (target : Workflow) (store : ReportStore τ)

namespace Purpose

variable {τ : Type}

/-- How the steps are run. -/
def policy : Purpose τ → RunPolicy
  | inline => .failFast
  | workflow _ _ => .collectAll

/-- The error of a failed check on a service: it names the first failed step, or else the first
one that did not succeed, or else no step at all. -/
def inlineFailure (report : Report) : CheckError :=
  let culprit := report.firstFailure?.or
    (report.steps.find? fun step => step.status ≠ .succeeded)
  match culprit with
  | some step => .checkFailed step.name (step.kind.getD .other) (step.message.getD "")
  | none => .checkFailed "" .other ("test connection for " ++ report.service ++ " failed")

/-- An event about the delivery to a workflow. -/
def event (level : LogLevel) (message : String) (workflow : Workflow)
    (fields : List (String × Json)) : Event :=
  ⟨level, .delivery, message, ("workflow", .string workflow.id.text) :: fields⟩

/-- Hand a report over. -/
def deliver (purpose : Purpose τ) (report : Report) : Act τ (Except CheckError (Option Report)) :=
  match purpose with
  | inline => return if report.isSuccess then .ok none else .error (inlineFailure report)
  | workflow target store => do
      Act.note (event .info "recording test connection report" target
        [("status", .string report.verdict.variantName)])
      match ← store.record target report with
      | .ok () => return .ok (some report)
      | .error error =>
          Act.note (event .warn "failed to record test connection report" target
            [("error", .string error.message)])
          return .error error

end Purpose

/-- Run steps on a connection and deliver the report on a service. -/
def testSteps {σ τ : Type} (runner : Runner σ) (service : String) (purpose : Purpose τ)
    (stamp : Timestamp) : Act (σ × τ) (Except CheckError (Option Report)) := do
  let (report, _) ← Act.onFirst (runner.run service purpose.policy stamp)
  Act.onSecond (purpose.deliver report)

end Preflight
