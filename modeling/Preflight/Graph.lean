import Preflight.Bolt.Pool
import Preflight.Settings.Uri
import Preflight.Text.Ellipsis
import Preflight.Text.Line

/-!
# Connections with a graph

A `GraphConnection` is made from settings and answers read-only statements. It
has one session, which is a pool of links that was shown to work when it was
opened. A session that has reached its greatest age is given up for a new one
before it is used again; if none can be opened, the old one stays and the next
use tries again.

Whatever is wrong with the settings is found before anything is sent: they have
to have a URI, a certificate file has to be there, and the URI has to name a
place. Texts that come from the peer are scrubbed of the password before they
are shown; the message of a failed statement is one line of at most
`longestMessage` characters, and its detail is the whole text.
-/

namespace Preflight

/-- A session with a graph. -/
structure GraphSession where
  pool : BoltPool
  /-- When the session was opened, in milliseconds. -/
  openedMs : Nat

/-- A connection with a graph. -/
structure GraphConnection where
  settings : GraphSettings
  session : GraphSession

namespace GraphSettings

/-- The cause of a failure to connect, for readers. -/
def causeText (settings : GraphSettings) : BoltFault → String
  | .silence => "no response within " ++ Text.decimal settings.timeoutSecs ++ "s"
  | fault => fault.message

/-- The failure to connect that a fault is. -/
def failure (settings : GraphSettings) (fault : BoltFault) : ConnectionFailure :=
  .of settings fault.kind (settings.causeText fault)

/-- Is the certificate file, where one is called for, there? -/
def hasCertificate (settings : GraphSettings) (files : Files) : Bool :=
  match settings.encrypted, settings.certificateFile with
  | true, some path => files.namesFile path
  | _, _ => true

/-- The endpoint that the settings name, if they hold together. -/
def endpoint (settings : GraphSettings) (files : Files) :
    Except ConnectionFailure BoltEndpoint :=
  match settings.uri with
  | .error fault => .error (.of settings .invalidConfig fault.message)
  | .ok uri =>
      if settings.hasCertificate files then
        (BoltEndpoint.ofUri uri).mapError settings.failure
      else
        .error (.of settings .invalidConfig
          ("caCertificate '" ++ settings.certificateFile.getD "" ++ "' is not a readable file"))

/-- Open a pool and show that it works. A peer that answers does so in time, whatever the bound of
the settings is. A bound of zero, which `GraphSettings.checked` refuses, counts as any other: it is
broken by a peer that does not answer, and by no peer that does. -/
def openPool (settings : GraphSettings) : Act BoltNet (Except ConnectionFailure BoltPool) := do
  let net ← Act.look
  match settings.endpoint net.files with
  | .error failure => return .error failure
  | .ok endpoint =>
      let pool : BoltPool := ⟨endpoint, settings.username, settings.password, none⟩
      let (result, pool) ← Act.within pool BoltPool.verify.run
      return match result with
        | .ok () => .ok pool
        | .error fault => .error (settings.failure fault)

end GraphSettings

namespace GraphConnection

/-- The greatest length of the message of a failed statement. -/
def longestMessage : Nat := 512

/-- An event of a connection. -/
def event (level : LogLevel) (message : String) (fields : List (String × Json)) : Event :=
  ⟨level, .graph, message, fields⟩

/-- An event that names the host. -/
def hostEvent (settings : GraphSettings) (message : String) : Event :=
  event .debug message [("host", .string settings.hostPort)]

/-- Open a session. -/
def openSession (settings : GraphSettings) :
    Act BoltNet (Except ConnectionFailure GraphSession) := do
  match ← settings.openPool with
  | .error failure => return .error failure
  | .ok pool =>
      let net ← Act.look
      return .ok ⟨pool, net.nowMs⟩

/-- Connect with a graph. -/
def connect (settings : GraphSettings) :
    Act BoltNet (Except ConnectionFailure GraphConnection) := do
  Act.note (event .info "opening neo4j connection" [("config", .string settings.redacted)])
  match ← openSession settings with
  | .error failure => return .error failure
  | .ok session =>
      Act.note (hostEvent settings "neo4j connection verified")
      return .ok ⟨settings, session⟩

/-- Has a session reached its greatest age? -/
def isExpired (connection : GraphConnection) (nowMs : Nat) : Bool :=
  connection.settings.lifetimeSecs * 1000 ≤ nowMs - connection.session.openedMs

/-- Give up an expired session for a new one. -/
def refresh : Act (GraphConnection × BoltNet) (Except ConnectionFailure Unit) := do
  let (connection, net) ← Act.look
  if connection.isExpired net.nowMs then
    Act.note (hostEvent connection.settings "neo4j session exceeded max lifetime, re-opening")
    match ← Act.onSecond (openSession connection.settings) with
    | .error failure => return .error failure
    | .ok session => Act.change fun (connection, net) => (.ok (), { connection with session }, net)
  else return .ok ()

/-- Have a talk on the session of a connection. -/
def talk {α : Type} (talk : Talk α) :
    Act (GraphConnection × BoltNet) (Except BoltFault α) := fun (connection, net) =>
  let done := talk.run.run (connection.session.pool, net)
  ⟨done.value,
    ({ connection with session.pool := done.world.1 }, done.world.2), done.events⟩

/-- The failure of a statement that a fault is. -/
def stepFailure (settings : GraphSettings) (fault : BoltFault) : StepFailure where
  kind := fault.kind
  message :=
    Text.ellipsis (Text.firstLine (scrub fault.message [settings.password])) longestMessage
  detail := some (scrub fault.diagnostic [settings.password])

/-- Run a read-only statement and count its rows. -/
def read (statement : String) :
    Act (GraphConnection × BoltNet) (Except StepFailure Nat) := do
  let (connection, _) ← Act.look
  match ← refresh with
  | .error failure => return .error ⟨failure.kind, failure.cause, none⟩
  | .ok () =>
      match ← talk (BoltPool.rowCount statement) with
      | .error fault => return .error (stepFailure connection.settings fault)
      | .ok rows =>
          Act.note (event .debug "neo4j query completed" [("rows", .ofNat rows)])
          return .ok rows

/-- Show that a connection still works. -/
def ping : Act (GraphConnection × BoltNet) (Except CheckError Unit) := do
  let (connection, _) ← Act.look
  match ← refresh with
  | .error failure =>
      return .error (.connection (.of connection.settings failure.kind failure.cause))
  | .ok () =>
      return (← talk BoltPool.verify).mapError fun fault =>
        .connection (connection.settings.failure fault)

/-- Close a connection. -/
def close (connection : GraphConnection) : Act BoltNet (Except CheckError Unit) := do
  Act.note (hostEvent connection.settings "neo4j connection closed")
  return .ok ()

end GraphConnection

end Preflight
