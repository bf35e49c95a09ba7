import Preflight.Delivery

/-!
# Records in memory

The simplest store: a list of records with one record for each workflow that has
ever been reported on. A later report takes the place of the earlier one.
-/

namespace Preflight

/-- The records of workflows, each identifier once. -/
structure MemoryRecords where
  entries : List (Uuid × WorkflowRecord) := []
  deriving DecidableEq

namespace MemoryRecords

/-- The latest record of a workflow. -/
def get? (records : MemoryRecords) (id : Uuid) : Option WorkflowRecord :=
  records.entries.lookup id

/-- The number of workflows with a record. -/
def size (records : MemoryRecords) : Nat := records.entries.length

/-- Put a record under an identifier into a list, in the place of an earlier one if there is one. -/
def put (id : Uuid) (record : WorkflowRecord) :
    List (Uuid × WorkflowRecord) → List (Uuid × WorkflowRecord)
  | [] => [(id, record)]
  | (other, old) :: rest =>
      if other = id then (id, record) :: rest else (other, old) :: put id record rest

/-- Keep a record. -/
def insert (records : MemoryRecords) (record : WorkflowRecord) : MemoryRecords :=
  ⟨put record.workflow.id record records.entries⟩

/-- The store of records in memory. -/
def store : ReportStore MemoryRecords where
  record workflow report :=
    Act.change fun records => (.ok (), records.insert ⟨workflow, report⟩)

end MemoryRecords

end Preflight
