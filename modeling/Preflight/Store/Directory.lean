import Preflight.Delivery
import Preflight.Files

/-!
# Records in a directory

One pretty-printed document for each workflow, `<id>.json` in the root directory
of the store. A record is written to a draft beside its place first and moved
there when it is complete, so that a reader never sees half of one.

Recording is three file operations, the `RecordStage`s, each of which happens as
a whole or not at all. `stages` lists them in order; the first that fails ends
the recording.
-/

namespace Preflight

/-- A store in a directory. -/
structure DirectoryStore where
  /-- The path of the directory, as a text. -/
  root : String
  deriving DecidableEq, Repr

/-- One of the file operations by which a record is kept. -/
inductive RecordStage where
  /-- Make the root directory. -/
  | makeRoot
  /-- Write the document to the draft. -/
  | writeDraft
  /-- Move the draft to the place of the record. -/
  | putInPlace
  deriving DecidableEq, Repr

namespace DirectoryStore

/-- The text of the path of a record. -/
def recordPath (store : DirectoryStore) (id : Uuid) : String :=
  Files.join store.root (id.text ++ ".json")

/-- The text of the path of a draft. -/
def draftPath (store : DirectoryStore) (id : Uuid) : String :=
  store.recordPath id ++ ".tmp"

/-- The document of a record. -/
def document (record : WorkflowRecord) : String := record.toJson.pretty

/-- Do one operation of keeping a record. -/
def perform (store : DirectoryStore) (record : WorkflowRecord) (files : Files) :
    RecordStage → Except CheckError Unit × Files
  | .makeRoot =>
      match files.makeDirectories (files.resolve store.root) with
      | (.ok (), files) => (.ok (), files)
      | (.error fault, files) => (.error (.file store.root fault), files)
  | .writeDraft =>
      let path := store.draftPath record.workflow.id
      match files.write (files.resolve path) (document record) with
      | .ok files => (.ok (), files)
      | .error fault => (.error (.file path fault), files)
  | .putInPlace =>
      let source := store.draftPath record.workflow.id
      let path := store.recordPath record.workflow.id
      match files.moveFile (files.resolve source) (files.resolve path) with
      | .ok files => (.ok (), files)
      | .error fault => (.error (.file path fault), files)

/-- The operations in order. -/
def stages : List RecordStage := [.makeRoot, .writeDraft, .putInPlace]

/-- Do operations until one fails. -/
def performAll (store : DirectoryStore) (record : WorkflowRecord) :
    List RecordStage → Files → Except CheckError Unit × Files
  | [], files => (.ok (), files)
  | stage :: rest, files =>
      match store.perform record files stage with
      | (.ok (), files) => performAll store record rest files
      | (.error e, files) => (.error e, files)

/-- Keep the report of a workflow. -/
def record (store : DirectoryStore) (workflow : Workflow) (report : Report) :
    Act Files (Except CheckError Unit) := do
  match ← Act.change (store.performAll ⟨workflow, report⟩ stages) with
  | .error e => return .error e
  | .ok () =>
      Act.note ⟨.debug, .fileStore, "workflow report written",
        [("path", .string (store.recordPath workflow.id))]⟩
      return .ok ()

/-- The record of a workflow, if there is one. -/
def load (store : DirectoryStore) (files : Files) (id : Uuid) :
    Except CheckError (Option WorkflowRecord) :=
  let path := store.recordPath id
  match files.read (files.resolve path) with
  | .error .notFound => .ok none
  | .error fault => .error (.file path fault)
  | .ok text =>
      match WorkflowRecord.decode.decodeText text with
      | .ok record => .ok (some record)
      | .error e => .error (.serialization e.message)

/-- The store as a place to deliver to. -/
def reportStore (store : DirectoryStore) : ReportStore Files := ⟨store.record⟩

end DirectoryStore

end Preflight
