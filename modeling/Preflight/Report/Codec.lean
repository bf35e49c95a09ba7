import Preflight.Report
import Preflight.Json.Printer

/-!
# Reports as documents

The written form of a report has its fields in a fixed order and writes `null`
for a field without a value. Reading takes the fields in any order, lets the
optional ones be missing, and passes over fields it does not know.
-/

namespace Preflight

namespace FailureKind

/-- All kinds by their name in documents. -/
def known : List (String × FailureKind) := all.map fun kind => (kind.wireName, kind)

/-- Read a kind. -/
def decode : Decoder FailureKind := Decoder.choice known

end FailureKind

namespace StepResult

/-- The form in documents. -/
def toJson (step : StepResult) : Json :=
  .object
    [("name", .string step.name),
     ("status", .string step.status.wireName),
     ("message", .ofOption step.message),
     ("kind", .ofOption (step.kind.map FailureKind.wireName)),
     ("errorLog", .ofOption step.errorLog),
     ("elapsedMs", .ofNat step.elapsedMs)]

/-- The result of a step while it is being read. -/
structure Draft where
  name : Option String := none
  status : Option StepStatus := none
  message : Option (Option String) := none
  kind : Option (Option FailureKind) := none
  errorLog : Option (Option String) := none
  elapsedMs : Option Nat := none

/-- The fields that are read. -/
def slots : List (Slot Draft) :=
  [{ name := "name", filled := (·.name.isSome),
     fill := fun d doc => (Decoder.string doc).map fun x => { d with name := some x } },
   { name := "status", filled := (·.status.isSome),
     fill := fun d doc =>
       (Decoder.choice StepStatus.known doc).map fun x => { d with status := some x } },
   { name := "message", filled := (·.message.isSome),
     fill := fun d doc =>
       (Decoder.optional Decoder.string doc).map fun x => { d with message := some x } },
   { name := "kind", filled := (·.kind.isSome),
     fill := fun d doc =>
       (Decoder.optional FailureKind.decode doc).map fun x => { d with kind := some x } },
   { name := "errorLog", filled := (·.errorLog.isSome),
     fill := fun d doc =>
       (Decoder.optional Decoder.string doc).map fun x => { d with errorLog := some x } },
   { name := "elapsedMs", filled := (·.elapsedMs.isSome),
     fill := fun d doc => (Decoder.word doc).map fun x => { d with elapsedMs := some x } }]

/-- The result of a step once all of it has been read. -/
def Draft.finish (d : Draft) : Except String StepResult :=
  match d.name, d.status, d.elapsedMs with
  | none, _, _ => .error "name"
  | _, none, _ => .error "status"
  | _, _, none => .error "elapsedMs"
  | some name, some status, some elapsedMs =>
      .ok
        { name := name
          status := status
          message := d.message.getD none
          kind := d.kind.getD none
          errorLog := d.errorLog.getD none
          elapsedMs := elapsedMs }

/-- How the result of a step is read. -/
def form : RecordForm Draft StepResult := ⟨"StepResult", slots, {}, Draft.finish⟩

/-- Read the result of a step. -/
def decode : Decoder StepResult := form.decode

end StepResult

namespace Report

/-- The form in documents. -/
def toJson (report : Report) : Json :=
  .object
    [("service", .string report.service),
     ("status", .string report.verdict.wireName),
     ("steps", .array (report.steps.map StepResult.toJson)),
     ("lastUpdatedAt", report.updatedAt.toJson)]

/-- A report while it is being read. -/
structure Draft where
  service : Option String := none
  verdict : Option Verdict := none
  steps : Option (List StepResult) := none
  updatedAt : Option Timestamp := none

/-- The fields that are read. -/
def slots : List (Slot Draft) :=
  [{ name := "service", filled := (·.service.isSome),
     fill := fun d doc => (Decoder.string doc).map fun x => { d with service := some x } },
   { name := "status", filled := (·.verdict.isSome),
     fill := fun d doc =>
       (Decoder.choice Verdict.known doc).map fun x => { d with verdict := some x } },
   { name := "steps", filled := (·.steps.isSome),
     fill := fun d doc =>
       (Decoder.list StepResult.decode doc).map fun x => { d with steps := some x } },
   { name := "lastUpdatedAt", filled := (·.updatedAt.isSome),
     fill := fun d doc => (Timestamp.decode doc).map fun x => { d with updatedAt := some x } }]

/-- A report once all of it has been read. -/
def Draft.finish (d : Draft) : Except String Report :=
  match d.service, d.verdict, d.steps, d.updatedAt with
  | none, _, _, _ => .error "service"
  | _, none, _, _ => .error "status"
  | _, _, none, _ => .error "steps"
  | _, _, _, none => .error "lastUpdatedAt"
  | some service, some verdict, some steps, some updatedAt =>
      .ok ⟨service, verdict, steps, updatedAt⟩

/-- How a report is read. -/
def form : RecordForm Draft Report := ⟨"Report", slots, {}, Draft.finish⟩

/-- Read a report. -/
def decode : Decoder Report := form.decode

end Report

end Preflight
