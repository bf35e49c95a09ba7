import Preflight.Failure

/-!
# Settings of a graph connection

`GraphSettings` says how to reach one Neo4j instance. The two renderings show
every field but the password, for which they have the mask: `redacted` is the
one-line form for readers, `diagnostic` the form of diagnostic texts.

Four fields have a bound of their own: the address and the user name are not
empty, and the two spans of time are not zero. `checked` reports all fields that
break theirs, in an order that readers are not to rely on.
-/

namespace Preflight

/-- How to reach one Neo4j instance. -/
structure GraphSettings where
  /-- Host and port, with or without a scheme in front. -/
  hostPort : String
  username : String
  password : Secret
  /-- Is the session secured? -/
  encrypted : Bool := false
  /-- Is the certificate of the peer to be verified? -/
  validates : Bool := false
  /-- A file with further trusted certificates. -/
  certificateFile : Option String := none
  /-- The age in seconds from which a session is opened anew before it is used. -/
  lifetimeSecs : Nat := 50
  /-- The bound in seconds on opening and verifying a session. -/
  timeoutSecs : Nat := 10
  deriving DecidableEq

/-- A field of the settings with a bound of its own. -/
inductive BoundedField where
  | timeout
  | hostPort
  | lifetime
  | username
  deriving DecidableEq, Repr

/-- The sentence about a field that breaks its bound. The values in it are those of a map, which are
shown in an order that is not fixed; here the bound stands in front. -/
def BoundedField.message : BoundedField → String
  | timeout => "connection_timeout_secs: " ++ zero
  | hostPort => "host_port: " ++ empty
  | lifetime => "max_connection_lifetime_secs: " ++ zero
  | username => "username: " ++ empty
where
  /-- The sentence about a number below one. -/
  zero : String :=
    "Validation error: range [\x7b\"min\": Number(1), \"value\": Number(0)\x7d]"
  /-- The sentence about an empty text. -/
  empty : String :=
    "Validation error: length [\x7b\"min\": Number(1), \"value\": String(\"\")\x7d]"

/-- Why settings are not usable. -/
inductive SettingsFault where
  | passwordMissing
  /-- The variable `name` has a value that is no truth value. -/
  | notBoolean (name value : String)
  /-- The variable `name` has a value that is no number. -/
  | notNumber (name : String)
  /-- Fields break their bounds. -/
  | outOfBounds (fields : List BoundedField)
  deriving DecidableEq, Repr

/-- The sentence for readers. -/
def SettingsFault.message : SettingsFault → String
  | passwordMissing => "NEO4J_PASSWORD is required"
  | notBoolean name value => name ++ " must be a boolean, got '" ++ value ++ "'"
  | notNumber name => name ++ " must be a positive integer"
  | outOfBounds fields => Text.joined "\n" (fields.map BoundedField.message)

namespace GraphSettings

/-- The text of a truth value. -/
def boolText (b : Bool) : String := if b then "true" else "false"

/-- The form for readers. -/
def redacted (s : GraphSettings) : String :=
  "Neo4jConfig(hostPort=" ++ s.hostPort ++ ", username=" ++ s.username ++ ", password=" ++
    Secret.mask ++ ", encrypted=" ++ boolText s.encrypted ++ ", validateSSL=" ++
    boolText s.validates ++ ", maxConnectionLifeTime=" ++ Text.decimal s.lifetimeSecs ++ "s)"

instance : Redactable GraphSettings where
  redacted := redacted
  secrets s := [s.password]

/-- The diagnostic form. -/
def diagnostic (s : GraphSettings) : String :=
  "Neo4jConfig \x7b host_port: " ++ Text.quoted s.hostPort ++ ", username: " ++
    Text.quoted s.username ++ ", password: " ++ Secret.mask ++ ", encrypted: " ++
    boolText s.encrypted ++ ", validate_ssl: " ++ boolText s.validates ++ ", ca_certificate: " ++
    Text.quotedOption s.certificateFile ++ ", max_connection_lifetime_secs: " ++
    Text.decimal s.lifetimeSecs ++ ", connection_timeout_secs: " ++
    Text.decimal s.timeoutSecs ++ " \x7d"

/-- Does a field break its bound? -/
def breaks (s : GraphSettings) : BoundedField → Bool
  | .timeout => s.timeoutSecs = 0
  | .hostPort => s.hostPort.isEmpty
  | .lifetime => s.lifetimeSecs = 0
  | .username => s.username.isEmpty

/-- The fields that break their bounds. No order of them is fixed; here they are sorted by name. -/
def brokenFields (s : GraphSettings) : List BoundedField :=
  [BoundedField.timeout, .hostPort, .lifetime, .username].filter s.breaks

/-- The settings, if every field keeps its bound. -/
def checked (s : GraphSettings) : Except SettingsFault GraphSettings :=
  if s.brokenFields.isEmpty then .ok s else .error (.outOfBounds s.brokenFields)

end GraphSettings

end Preflight
