import Preflight.Settings
import Preflight.Json.Decode

/-!
# Settings from a document

The document of a service connection holds the settings under their own names.
The address, the user name and the password are required; the other fields have
defaults, also in the array form.
-/

namespace Preflight

namespace GraphSettings

/-- Settings while they are being read. -/
structure Draft where
  hostPort : Option String := none
  username : Option String := none
  password : Option Secret := none
  encrypted : Option Bool := none
  validates : Option Bool := none
  certificateFile : Option (Option String) := none
  lifetimeSecs : Option Nat := none
  timeoutSecs : Option Nat := none

/-- Read a credential. -/
def decodeSecret : Decoder Secret := fun doc => (Decoder.string doc).map Secret.mk

/-- The fields that are read. -/
def slots : List (Slot Draft) :=
  [{ name := "hostPort", filled := (·.hostPort.isSome),
     fill := fun d doc => (Decoder.string doc).map fun x => { d with hostPort := some x } },
   { name := "username", filled := (·.username.isSome),
     fill := fun d doc => (Decoder.string doc).map fun x => { d with username := some x } },
   { name := "password", filled := (·.password.isSome),
     fill := fun d doc => (decodeSecret doc).map fun x => { d with password := some x } },
   { name := "encrypted", filled := (·.encrypted.isSome), omissible := true,
     fill := fun d doc => (Decoder.bool doc).map fun x => { d with encrypted := some x } },
   { name := "validateSSL", filled := (·.validates.isSome), omissible := true,
     fill := fun d doc => (Decoder.bool doc).map fun x => { d with validates := some x } },
   { name := "caCertificate", filled := (·.certificateFile.isSome), omissible := true,
     fill := fun d doc =>
       (Decoder.optional Decoder.string doc).map fun x => { d with certificateFile := some x } },
   { name := "maxConnectionLifeTime", filled := (·.lifetimeSecs.isSome), omissible := true,
     fill := fun d doc => (Decoder.word doc).map fun x => { d with lifetimeSecs := some x } },
   { name := "connectionTimeout", filled := (·.timeoutSecs.isSome), omissible := true,
     fill := fun d doc => (Decoder.word doc).map fun x => { d with timeoutSecs := some x } }]

/-- The settings once all of them have been read; what is left out has its default. -/
def Draft.finish (d : Draft) : Except String GraphSettings :=
  match d.hostPort, d.username, d.password with
  | none, _, _ => .error "hostPort"
  | _, none, _ => .error "username"
  | _, _, none => .error "password"
  | some hostPort, some username, some password =>
      let defaults : GraphSettings := { hostPort, username, password }
      .ok
        { defaults with
          encrypted := d.encrypted.getD defaults.encrypted
          validates := d.validates.getD defaults.validates
          certificateFile := d.certificateFile.getD defaults.certificateFile
          lifetimeSecs := d.lifetimeSecs.getD defaults.lifetimeSecs
          timeoutSecs := d.timeoutSecs.getD defaults.timeoutSecs }

/-- How settings are read. -/
def form : RecordForm Draft GraphSettings := ⟨"Neo4jConfig", slots, {}, Draft.finish⟩

/-- The settings of a document, checked. -/
def ofDocument (text : String) : Except CheckError GraphSettings :=
  match form.decode.decodeText text with
  | .error e => .error (.serialization e.message)
  | .ok settings =>
      match settings.checked with
      | .error fault => .error (.validation fault.message)
      | .ok settings => .ok settings

end GraphSettings

end Preflight
