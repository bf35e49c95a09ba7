import Preflight.Amundsen.Connector
import Preflight.EnvFile
import Preflight.Log.Filter
import Preflight.Settings.Variables
import Preflight.Store.Catalog
import Preflight.Store.Directory

/-!
# The command

The command tests one connection, which its environment describes. Without a
workflow the verdict is its exit status, and it writes nothing. With a workflow
the report is recorded, in a catalog or else in a directory, and written out; the
exit status tells whether it could be recorded.

The variables of a file beside the program are added to the environment. What the
log shows is settled before that file is read.

`Command.act` is all that is done, with its result; `Command.perform` adds what is
seen of it from outside.
-/

namespace Preflight

namespace Command

/-- What the command acts on: the net of the graph, and the places where reports are recorded. -/
abbrev Surroundings := BoltNet × (Files × Web)

/-- Why the command fails. -/
inductive Fault where
  | check (error : CheckError)
  | badWorkflowId (raw : String) (fault : UuidFault)
  /-- A workflow is given, but no place to record its reports. -/
  | noStore
  deriving DecidableEq, Repr

namespace Fault

/-- The sentence for readers. -/
def message : Fault → String
  | check error => error.message
  | badWorkflowId raw fault => "Invalid WORKFLOW_ID '" ++ raw ++ "': " ++ fault.message
  | noStore => "WORKFLOW_ID is set but neither CATALOG_API_URL nor WORKFLOW_STORE_DIR is"

/-- The lines that end a failed command. -/
def lines (fault : Fault) : List String :=
  let causes := match fault with
    | check error => match error.cause? with
      | some cause => ["", "Caused by:", "    " ++ cause]
      | none => []
    | _ => []
  ("Error: " ++ fault.message) :: causes

end Fault

/-! ## The environment -/

/-- The name of the file of variables. -/
def envFileName : String := ".env"

/-- The text of the file of variables in the nearest directory at or above a path; the path is
given by its names, the last one first. -/
def envFileAbove? (files : Files) : List String → Option String
  | [] => (files.read [envFileName]).toOption
  | name :: above =>
      match files.read ((name :: above).reverse ++ [envFileName]) with
      | .ok text => some text
      | .error _ => envFileAbove? files above

/-- The environment with the variables of the file. -/
def completed (environment : Environment) (files : Files) : Environment :=
  match envFileAbove? files files.home.reverse with
  | none => environment
  | some text => EnvFile.load environment text

/-- The number of times that a report is sent before the catalog counts as failing. -/
structure Patience where
  times : Nat
  deriving DecidableEq, Repr

/-- A store in a catalog, as a place to record reports. -/
def catalogPlace (store : CatalogStore) : ReportStore (Files × Web) where
  record workflow report := Act.onSecond (store.record workflow report)

/-- A store in a directory, as a place to record reports. -/
def directoryPlace (store : DirectoryStore) : ReportStore (Files × Web) where
  record workflow report := Act.onFirst (store.record workflow report)

/-- The place where reports are recorded; a catalog comes before a directory. -/
def place? (given : GraphSettings.Variables) (patience : Patience) :
    Option (ReportStore (Files × Web)) :=
  match given "CATALOG_API_URL", given "WORKFLOW_STORE_DIR" with
  | some url, _ =>
      let token := (given "CATALOG_API_TOKEN").map Secret.mk
      some (catalogPlace (CatalogStore.ofAddress url token patience.times))
  | none, some root => some (directoryPlace ⟨root⟩)
  | none, none => none

/-- The workflow that is given, if one is. -/
def workflow? (given : GraphSettings.Variables) : Except Fault (Option Workflow) :=
  match given "WORKFLOW_ID" with
  | none => .ok none
  | some raw =>
      match Uuid.parse raw with
      | .error fault => .error (.badWorkflowId raw fault)
      | .ok id =>
          let name := (given "WORKFLOW_NAME").getD ("test-connection-" ++ id.text)
          .ok (some ⟨id, name⟩)

/-- What the report is made for. -/
def purpose (given : GraphSettings.Variables) (patience : Patience) :
    Except Fault (Purpose (Files × Web)) := do
  match ← workflow? given with
  | none => return .inline
  | some workflow =>
      match place? given patience with
      | none => throw .noStore
      | some store => return .workflow workflow store

/-! ## The deed -/

/-- An event of the command. -/
def event (level : LogLevel) (message : String) (fields : List (String × Json)) : Event :=
  ⟨level, .command, message, fields⟩

/-- Note that a workflow is given. -/
def notePurpose : Purpose (Files × Web) → Act Surroundings Unit
  | .inline => return ()
  | .workflow target _ =>
      Act.note (event .info "workflow mode" [("workflow", .string target.id.text)])

/-- Test the connection with some settings. -/
def testConnection (settings : GraphSettings) (purpose : Purpose (Files × Web))
    (stamp : Timestamp) : Act Surroundings (Except Fault (Option Report)) := do
  match ← Amundsen.connector.connectAndTest settings purpose stamp with
  | .error error =>
      Act.note (event .error "test connection failed" [("error", .string error.message)])
      return .error (.check error)
  | .ok none =>
      Act.note (event .info "test connection succeeded" [])
      return .ok none
  | .ok (some report) => return .ok (some report)

/-- Do what the variables ask for. The report that is returned is to be written out. -/
def act (given : GraphSettings.Variables) (patience : Patience) (stamp : Timestamp) :
    Act Surroundings (Except Fault (Option Report)) := do
  match GraphSettings.ofVariables given with
  | .error error =>
      Act.note (event .error ("Configuration error: " ++ error.message) [])
      return .error (.check error)
  | .ok settings =>
      Act.note (event .info "configuration loaded" [("config", .string settings.redacted)])
      match purpose given patience with
      | .error fault => return .error fault
      | .ok purpose =>
          notePurpose purpose
          testConnection settings purpose stamp

/-! ## What is seen of it -/

/-- What is seen of a command. -/
structure Performance where
  exitStatus : Nat
  output : String
  /-- The lines about a text of directives that makes no sense. -/
  complaints : List String
  log : List Event
  /-- The last words of a failed command. -/
  verdict : List String
  surroundings : Surroundings

/-- The directive that holds whatever the environment says. -/
def ownDirective : LogDirective := { target := some "connectors_rs", level := some .info }

/-- The filter of the log, and what is wrong with the text it is made from. -/
def logFilter (environment : Environment) : LogFilter × List LogFilter.Complaint :=
  let (filter, complaints) := LogFilter.ofText ((environment.lookup "RUST_LOG").getD "")
  (filter ++ [ownDirective], complaints)

/-- The text of a report, as it is written out. -/
def outputText : Option Report → String
  | none => ""
  | some report => report.toJson.pretty ++ "\n"

/-- Perform the command in an environment. -/
def perform (environment : Environment) (patience : Patience) (stamp : Timestamp)
    (surroundings : Surroundings) : Performance :=
  let (filter, complaints) := logFilter environment
  let whole := completed environment surroundings.2.1
  let done := (act (fun name => whole.lookup name) patience stamp).run surroundings
  let log := done.events.filter filter.admits
  let complaints := complaints.map (·.message)
  match done.value with
  | .ok report => ⟨0, outputText report, complaints, log, [], done.world⟩
  | .error fault => ⟨1, "", complaints, log, fault.lines, done.world⟩

end Command

end Preflight
