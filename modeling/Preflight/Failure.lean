import Preflight.Secret
import Preflight.Text.LowerCase
import Preflight.Text.Quoted

/-!
# Kinds of failure, and what a check reports as wrong

A failure is classified by a `FailureKind`. Peers seldom give a structured
cause, so `FailureKind.ofMessage` looks for well-known fragments in the message;
the table `FailureKind.fragments` lists them by falling priority, and the first
kind with a fragment in the message wins.

A probe that fails gives a `StepFailure`; a connection that cannot be made gives
a `ConnectionFailure`; every operation of the library that can fail as a whole
gives a `CheckError`.

## Main results

* `ofWireName?_wireName` — the wire name of a kind names that kind.
-/

namespace Preflight

/-- The cause of a failed connection or probe. -/
inductive FailureKind where
  /-- The host cannot be reached. -/
  | connectivity
  /-- The credentials were refused. -/
  | authentication
  /-- The credentials are good but do not allow the operation. -/
  | accessDenied
  /-- Transport security could not be set up. -/
  | tls
  /-- The settings describe no endpoint. -/
  | invalidConfig
  /-- There was no answer in time. -/
  | timeout
  /-- The peer refused or failed the statement. -/
  | query
  | other
  deriving DecidableEq, Repr, Inhabited

namespace FailureKind

/-- All kinds, in the order in which they are listed to a reader. -/
def all : List FailureKind :=
  [connectivity, authentication, accessDenied, tls, invalidConfig, timeout, query, other]

/-- The name of a kind in documents. -/
def wireName : FailureKind → String
  | connectivity => "connectivity"
  | authentication => "authentication"
  | accessDenied => "accessDenied"
  | tls => "tls"
  | invalidConfig => "invalidConfig"
  | timeout => "timeout"
  | query => "query"
  | other => "other"

/-- The name of a kind in sentences. -/
def displayName : FailureKind → String
  | accessDenied => "access denied"
  | invalidConfig => "invalid config"
  | kind => kind.wireName

/-- The name of a kind in diagnostic texts. -/
def variantName : FailureKind → String
  | connectivity => "Connectivity"
  | authentication => "Authentication"
  | accessDenied => "AccessDenied"
  | tls => "Tls"
  | invalidConfig => "InvalidConfig"
  | timeout => "Timeout"
  | query => "Query"
  | other => "Other"

/-- The kind with a given wire name. -/
def ofWireName? (name : String) : Option FailureKind :=
  all.find? fun kind => kind.wireName = name

theorem ofWireName?_wireName (kind : FailureKind) : ofWireName? kind.wireName = some kind := by
  cases kind <;> decide +kernel

/-- The fragments that give a message away, the kind of highest priority first. -/
def fragments : List (FailureKind × List String) :=
  [(accessDenied,
      ["security.forbidden", "forbidden", "permission denied", "access denied", "not allowed"]),
   (authentication,
      ["unauthorized", "authentication", "credentials", "invalid username or password"]),
   (tls, ["certificate", "tls", "ssl", "x509", "unknownissuer"]),
   (timeout, ["timed out", "timeout", "deadline"]),
   (connectivity,
      ["connection refused", "unreachable", "dns", "failed to lookup", "connection reset",
       "broken pipe"]),
   (query, ["syntax", "statement", "cypher", "query"])]

/-- The first kind of a table that has a fragment in the text. -/
def firstMatch (text : List Char) : List (FailureKind × List String) → FailureKind
  | [] => other
  | (kind, pieces) :: rest =>
      if pieces.any fun piece => Text.contains piece.toList text then kind
      else firstMatch text rest

/-- The kind that the fragments of a message, in whatever case, tell. -/
def ofMessage (message : String) : FailureKind :=
  firstMatch (Text.foldCase message.toList) fragments

/-- A transport failure without a more telling fragment is one of connectivity. -/
def orConnectivity : FailureKind → FailureKind
  | other => connectivity
  | query => connectivity
  | kind => kind

end FailureKind

/-- The failure of one probe. -/
structure StepFailure where
  kind : FailureKind
  message : String
  /-- The full text of the cause, if it says more than the message. -/
  detail : Option String := none
  deriving DecidableEq, Repr

/-- The failure to make a connection from settings, free of credentials. -/
structure ConnectionFailure where
  /-- The redacted rendering of the settings. -/
  config : String
  kind : FailureKind
  cause : String
  deriving DecidableEq, Repr

namespace ConnectionFailure

/-- The failure to connect with `settings`; their credentials are scrubbed from the cause. -/
def of {α : Type} [Redactable α] (settings : α) (kind : FailureKind) (cause : String) :
    ConnectionFailure where
  config := Redactable.redacted settings
  kind := kind
  cause := scrub cause (Redactable.secrets settings)

/-- The sentence for readers. -/
def message (failure : ConnectionFailure) : String :=
  "Unknown error connecting with " ++ failure.config ++ ": " ++ failure.cause

end ConnectionFailure

/-- The failure of a file operation. -/
inductive FileFault where
  | notFound
  | alreadyExists
  | notADirectory
  | isADirectory
  /-- A failure of any other kind, with its text. -/
  | other (text : String)
  deriving DecidableEq, Repr

namespace FileFault

/-- The text and number of the operating system. -/
def message : FileFault → String
  | notFound => "No such file or directory (os error 2)"
  | alreadyExists => "File exists (os error 17)"
  | notADirectory => "Not a directory (os error 20)"
  | isADirectory => "Is a directory (os error 21)"
  | other text => text

/-- The number, name and text that a diagnostic form of the fault shows. -/
def diagnostic : FileFault → String
  | notFound => "Os \x7b code: 2, kind: NotFound, message: \"No such file or directory\" \x7d"
  | alreadyExists => "Os \x7b code: 17, kind: AlreadyExists, message: \"File exists\" \x7d"
  | notADirectory => "Os \x7b code: 20, kind: NotADirectory, message: \"Not a directory\" \x7d"
  | isADirectory => "Os \x7b code: 21, kind: IsADirectory, message: \"Is a directory\" \x7d"
  | other text => "Custom \x7b kind: Other, error: " ++ Text.quoted text ++ " \x7d"

end FileFault

/-- What an operation of the library reports when it fails as a whole. -/
inductive CheckError where
  /-- The connection could not be made. -/
  | connection (failure : ConnectionFailure)
  /-- A step failed, and the caller asked to be stopped by that. -/
  | checkFailed (step : String) (kind : FailureKind) (message : String)
  /-- The list of steps is not well formed. -/
  | invalidSteps (reason : String)
  /-- The settings do not hold together. -/
  | validation (reason : String)
  /-- The report could not be recorded. -/
  | workflow (reason : String)
  /-- A document could not be read. -/
  | serialization (reason : String)
  /-- A file operation failed. -/
  | file (path : String) (fault : FileFault)
  deriving DecidableEq, Repr

namespace CheckError

/-- The sentence for readers. -/
def message : CheckError → String
  | connection failure => failure.message
  | checkFailed step kind text =>
      "Test connection failed at step '" ++ step ++ "' (" ++ kind.displayName ++ "): " ++ text
  | invalidSteps reason => "Invalid diagnostic steps: " ++ reason
  | validation reason => "Validation error: " ++ reason
  | workflow reason => "Workflow error: " ++ reason
  | serialization reason => "Serialization error: " ++ reason
  | file path fault => "IO error on '" ++ path ++ "': " ++ fault.message

/-- The diagnostic form. -/
def diagnostic : CheckError → String
  | connection failure =>
      "Connection(ConnectionError \x7b config: " ++ Text.quoted failure.config ++ ", kind: " ++
        failure.kind.variantName ++ ", cause: " ++ Text.quoted failure.cause ++ " \x7d)"
  | checkFailed step kind text =>
      "TestConnectionFailed \x7b step: " ++ Text.quoted step ++ ", kind: " ++ kind.variantName ++
        ", message: " ++ Text.quoted text ++ " \x7d"
  | invalidSteps reason => "InvalidSteps(" ++ Text.quoted reason ++ ")"
  | validation reason => "Validation(" ++ Text.quoted reason ++ ")"
  | workflow reason => "Workflow(" ++ Text.quoted reason ++ ")"
  | serialization reason => "Serialization(" ++ Text.quoted reason ++ ")"
  | file path fault =>
      "Io \x7b path: " ++ Text.quoted path ++ ", source: " ++ fault.diagnostic ++ " \x7d"

/-- The text of the deeper cause, where there is one. -/
def cause? : CheckError → Option String
  | file _ fault => some fault.message
  | serialization reason => some reason
  | _ => none

end CheckError

end Preflight
