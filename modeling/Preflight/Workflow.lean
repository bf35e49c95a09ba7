import Preflight.Report.Codec
import Preflight.Uuid

/-!
# Workflows and their records

A diagnostics request comes with a workflow, which receives the report. What a
store keeps for a workflow is a `WorkflowRecord`. Its document says that the run
was completed, in a field `status` with only one value; whether the checks
passed is told by the report inside.
-/

namespace Preflight

/-- The workflow that receives the report of a diagnostics request. -/
structure Workflow where
  id : Uuid
  name : String
  deriving DecidableEq, Repr

/-- What a store keeps for one workflow. -/
structure WorkflowRecord where
  workflow : Workflow
  response : Report
  deriving DecidableEq, Repr

namespace Workflow

/-- The form in documents. -/
def toJson (workflow : Workflow) : Json :=
  .object [("id", .string workflow.id.text), ("name", .string workflow.name)]

/-- Read an identifier. -/
def decodeId : Decoder Uuid :=
  Decoder.ofString "a formatted UUID string" fun s =>
    match Uuid.parse s with
    | .ok id => .ok id
    | .error fault => .error (.refused ("UUID parsing failed: " ++ fault.message))

/-- A workflow while it is being read. -/
structure Draft where
  id : Option Uuid := none
  name : Option String := none

/-- The fields that are read. -/
def slots : List (Slot Draft) :=
  [{ name := "id", filled := (·.id.isSome),
     fill := fun d doc => (decodeId doc).map fun x => { d with id := some x } },
   { name := "name", filled := (·.name.isSome),
     fill := fun d doc => (Decoder.string doc).map fun x => { d with name := some x } }]

/-- A workflow once all of it has been read. -/
def Draft.finish (d : Draft) : Except String Workflow :=
  match d.id, d.name with
  | none, _ => .error "id"
  | _, none => .error "name"
  | some id, some name => .ok ⟨id, name⟩

/-- How a workflow is read. -/
def form : RecordForm Draft Workflow := ⟨"WorkflowRef", slots, {}, Draft.finish⟩

end Workflow

namespace WorkflowRecord

/-- The name of the only status a workflow is given. -/
def completedName : String := "Successful"

/-- The form in documents. -/
def toJson (record : WorkflowRecord) : Json :=
  .object
    [("workflow", record.workflow.toJson),
     ("status", .string completedName),
     ("response", record.response.toJson)]

/-- A record while it is being read. -/
structure Draft where
  workflow : Option Workflow := none
  status : Option Unit := none
  response : Option Report := none

/-- The fields that are read. -/
def slots : List (Slot Draft) :=
  [{ name := "workflow", filled := (·.workflow.isSome),
     fill := fun d doc => (Workflow.form.decode doc).map fun x => { d with workflow := some x } },
   { name := "status", filled := (·.status.isSome),
     fill := fun d doc =>
       (Decoder.choice [(completedName, ())] doc).map fun x => { d with status := some x } },
   { name := "response", filled := (·.response.isSome),
     fill := fun d doc => (Report.decode doc).map fun x => { d with response := some x } }]

/-- A record once all of it has been read. -/
def Draft.finish (d : Draft) : Except String WorkflowRecord :=
  match d.workflow, d.status, d.response with
  | none, _, _ => .error "workflow"
  | _, none, _ => .error "status"
  | _, _, none => .error "response"
  | some workflow, some _, some response => .ok ⟨workflow, response⟩

/-- How a record is read. -/
def form : RecordForm Draft WorkflowRecord := ⟨"WorkflowRecord", slots, {}, Draft.finish⟩

/-- Read a record. -/
def decode : Decoder WorkflowRecord := form.decode

end WorkflowRecord

end Preflight
