import Preflight.Command
import Preflight.Rehearsal
import Std.Time.DateTime.Timestamp

/-!
# The program

The program performs the command in its environment, with the files that the
command can come across, and then makes what was done to the files come true. It
reaches no peer by itself: the first argument names a rehearsal, and without one
nobody answers.
-/

namespace Preflight

namespace Program

/-- The variables that the command asks for by name. -/
def variableNames : List String :=
  ["NEO4J_HOST_PORT", "NEO4J_USERNAME", "NEO4J_PASSWORD", "NEO4J_ENCRYPTED",
   "NEO4J_VALIDATE_SSL", "NEO4J_CA_CERTIFICATE", "NEO4J_MAX_CONNECTION_LIFETIME",
   "NEO4J_CONNECTION_TIMEOUT", "WORKFLOW_ID", "WORKFLOW_NAME", "CATALOG_API_URL",
   "CATALOG_API_TOKEN", "WORKFLOW_STORE_DIR", "RUST_LOG"]

/-- The words of a text that can be the names of variables. -/
def wordsOf (text : String) : List String :=
  (text.toList.splitBy fun a b => EnvFile.isNameChar a == EnvFile.isNameChar b).map String.ofList

/-- The environment, as far as it can matter. -/
def environment (envFile : String) : IO Environment := do
  let names := (variableNames ++ wordsOf envFile).eraseDups
  names.filterMapM fun name => do
    return (← IO.getEnv name).map fun value => (name, value)

/-- The names of a path from the top on. -/
def absolute (text : String) : IO TreePath := do
  let here ← IO.currentDir
  return (here / text).components.filter fun name => name ≠ "" ∧ name ≠ "."

/-- The path of names as a text. -/
def pathText (path : TreePath) : String := "/" ++ Text.joined "/" path

/-- What stands at a path. -/
def entry (path : TreePath) : IO (Option Entry) := do
  let here ← IO.currentDir
  let place := here / pathText path
  if ← place.isDir then return some .directory
  else if ← place.pathExists then
    try return some (.file (← IO.FS.readFile place))
    catch _ => return some (.file "")
  else return none

/-- Add all that stands on the way to a path. -/
def addWay (files : Files) (path : TreePath) : IO Files :=
  (List.range path.length).foldlM
    (fun files count => do
      let way := path.take (count + 1)
      return match ← entry way with
        | some found => files.put way found
        | none => files)
    files

/-- Add what stands in a directory. -/
def addBelow (files : Files) (path : TreePath) : IO Files := do
  let here ← IO.currentDir
  let place := here / pathText path
  if ← place.isDir then
    (← place.readDir).toList.foldlM (fun files found => addWay files (path ++ [found.fileName])) files
  else return files

/-- The files that hold variables. -/
def envFiles : IO Files := do
  let home ← absolute ""
  (List.range (home.length + 1)).foldlM
    (fun files count => addWay files (home.take count ++ [Command.envFileName]))
    { home }

/-- The files that the command can come across. -/
def filesFor (start : Environment) : IO Files := do
  let files ← envFiles
  let whole := Command.completed start files
  let files ← match whole.lookup "NEO4J_CA_CERTIFICATE" with
    | some path => addWay files (← absolute path)
    | none => pure files
  match whole.lookup "WORKFLOW_STORE_DIR" with
  | some root =>
      let root ← absolute root
      addBelow (← addWay files root) root
  | none => return files

/-- Make what was done to the files come true. -/
def realize (before after : Files) : IO Unit :=
  after.entries.forM fun (path, now) => do
    if before.get? path ≠ some now then
      match now with
      | .directory => IO.FS.createDirAll (pathText path)
      | .file text => IO.FS.writeFile (pathText path) text

/-- The rehearsal that the arguments name. -/
def rehearsal (arguments : List String) : IO Json := do
  match arguments with
  | [] => return .object []
  | path :: _ =>
      match Json.parse (← IO.FS.readFile path) with
      | .ok document => return document
      | .error fault => throw (IO.userError fault.message)

/-- The current time. -/
def now : IO Timestamp := do
  let instant ← Std.Time.Timestamp.now
  return (Timestamp.ofMillis? instant.toMillisecondsSinceUnixEpoch.val).getD .epoch

/-- Perform the command. -/
def run (arguments : List String) : IO UInt32 := do
  let script ← rehearsal arguments
  let texts := (← envFiles).entries.filterMap fun (_, found) =>
    match found with
    | .file text => some text
    | .directory => none
  let start ← environment (Text.joined "\n" texts)
  let files ← filesFor start
  let turns := (Rehearsal.listAt "responses" script).map Rehearsal.webTurn
  let net : BoltNet :=
    { peer := (script.get? "server").map (Rehearsal.boltPeer "127.0.0.1" BoltEndpoint.defaultPort)
      files }
  let done := Command.perform start ⟨turns.length + 1⟩ (← now) (net, files, { turns })
  for complaint in done.complaints do IO.eprintln complaint
  for event in done.log do IO.eprintln event.toJson.compact
  IO.print done.output
  realize files done.surroundings.2.1
  for line in done.verdict do IO.eprintln line
  return done.exitStatus.toUInt32

end Program

end Preflight

/-- Perform the command. -/
def main (arguments : List String) : IO UInt32 := Preflight.Program.run arguments
