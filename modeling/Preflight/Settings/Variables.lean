import Preflight.Settings
import Preflight.Text.Blank
import Preflight.Text.Decimal
import Preflight.Text.LowerCase

/-!
# Settings from variables

Settings can be given by variables of an environment, here any look-up of names.
The password is required; every other variable has a default. Variables are read
in a fixed order, and the first one that makes no sense is reported; the bounds
of the fields are checked only when all variables have been read.
-/

namespace Preflight

namespace GraphSettings

/-- A look-up of variables by name. -/
abbrev Variables := String → Option String

/-- The truth value that a text stands for, blanks around it and its case apart. -/
def boolOfText? (value : String) : Option Bool :=
  let word := String.ofList (Text.asciiLower (Text.trim value.toList))
  if word ∈ ["1", "true", "yes", "on"] then some true
  else if word ∈ ["0", "false", "no", "off", ""] then some false
  else none

/-- The 64-bit number that a text stands for, blanks around it and a plus sign apart. -/
def wordOfText? (value : String) : Option Nat :=
  let digits := match Text.trim value.toList with
    | '+' :: rest => rest
    | cs => cs
  (Text.natOfDigits? digits).filter (· < 0x10000000000000000)

/-- The truth value of a variable, or a default if it is not set. -/
def boolVariable (vars : Variables) (name : String) (default : Bool) : Except SettingsFault Bool :=
  match vars name with
  | none => .ok default
  | some value =>
      match boolOfText? value with
      | some b => .ok b
      | none => .error (.notBoolean name value)

/-- The number of a variable, or a default if it is not set. -/
def wordVariable (vars : Variables) (name : String) (default : Nat) : Except SettingsFault Nat :=
  match vars name with
  | none => .ok default
  | some value =>
      match wordOfText? value with
      | some n => .ok n
      | none => .error (.notNumber name)

/-- The settings that variables give, or the first reason why they give none. -/
def readVariables (vars : Variables) : Except SettingsFault GraphSettings := do
  let hostPort := (vars "NEO4J_HOST_PORT").getD "localhost:7687"
  let username := (vars "NEO4J_USERNAME").getD "neo4j"
  let password ← match (vars "NEO4J_PASSWORD").filter (!·.isEmpty) with
    | some value => .ok (Secret.mk value)
    | none => .error .passwordMissing
  let defaults : GraphSettings := { hostPort, username, password }
  let encrypted ← boolVariable vars "NEO4J_ENCRYPTED" defaults.encrypted
  let validates ← boolVariable vars "NEO4J_VALIDATE_SSL" defaults.validates
  let certificateFile := (vars "NEO4J_CA_CERTIFICATE").filter (!Text.isAllBlank ·)
  let lifetimeSecs ← wordVariable vars "NEO4J_MAX_CONNECTION_LIFETIME" defaults.lifetimeSecs
  let timeoutSecs ← wordVariable vars "NEO4J_CONNECTION_TIMEOUT" defaults.timeoutSecs
  checked
    { defaults with encrypted, validates, certificateFile, lifetimeSecs, timeoutSecs }

/-- The settings that variables give. -/
def ofVariables (vars : Variables) : Except CheckError GraphSettings :=
  match readVariables vars with
  | .ok settings => .ok settings
  | .error fault => .error (.validation fault.message)

end GraphSettings

end Preflight
