import Preflight.Failure
import Preflight.Text.Search

/-!
# Errors of the server

A server tells what went wrong by a code of parts divided by points, such as
`Neo.ClientError.Security.Forbidden`: who issued it, whose fault it is, the area
and the title. `ServerErrorClass.ofCode` is the class of a code. A code of the
area *security* decides the kind of failure on its own; with any other code the
text of the error does, and an error whose text says nothing is one of the
statement.

## Main results

* `kind_of_security` — the kind of a security error is decided by its code.
* `kind_of_not_security` — the kind of any other error by its text.
-/

namespace Preflight

/-- The classes of security errors. -/
inductive SecurityClass where
  | authentication
  | authorizationExpired
  | tokenExpired
  | other
  | unknown
  deriving DecidableEq, Repr

/-- The classes of errors that a client causes. -/
inductive ClientErrorClass where
  | security (reason : SecurityClass)
  | fatalDiscovery
  | transactionTerminated
  | protocolViolation
  | sessionExpired
  | other
  | unknown
  deriving DecidableEq, Repr

/-- The classes of errors. -/
inductive ServerErrorClass where
  | client (reason : ClientErrorClass)
  | transient
  | database
  | unknown
  deriving DecidableEq, Repr

namespace SecurityClass

/-- The class of a title; an area without a title is unknown. -/
def ofTitle : Option String → SecurityClass
  | none => unknown
  | some "Unauthorized" => authentication
  | some "AuthorizationExpired" => authorizationExpired
  | some "TokenExpired" => tokenExpired
  | some _ => other

/-- The name of a class. -/
def label : SecurityClass → String
  | authentication => "Authentication"
  | authorizationExpired => "AuthorizationExpired"
  | tokenExpired => "TokenExpired"
  | other => "Other"
  | unknown => "Unknown"

end SecurityClass

namespace ClientErrorClass

/-- The class of an area and a title. -/
def ofParts (area title : Option String) : ClientErrorClass :=
  match area, title with
  | none, _ => unknown
  | some "Security", title => security (SecurityClass.ofTitle title)
  | some "Database", some "DatabaseNotFound" => fatalDiscovery
  | some "Transaction", some "Terminated" => transactionTerminated
  | some "Request", _ => protocolViolation
  | some "Cluster", some "NotALeader" => sessionExpired
  | some "General", some "ForbiddenOnReadOnlyDatabase" => sessionExpired
  | some _, _ => other

/-- The name of a class. -/
def label : ClientErrorClass → String
  | security reason => "Security(" ++ reason.label ++ ")"
  | fatalDiscovery => "FatalDiscovery"
  | transactionTerminated => "TransactionTerminated"
  | protocolViolation => "ProtocolViolation"
  | sessionExpired => "SessionExpired"
  | other => "Other"
  | unknown => "Unknown"

end ClientErrorClass

namespace ServerErrorClass

/-- The parts of a code behind the first one. -/
def parts (code : String) : List String :=
  ((Text.splitAtChar '.' code.toList).drop 1).map String.ofList

/-- The class of a code. -/
def ofCode (code : String) : ServerErrorClass :=
  let parts := parts code
  match parts[0]? with
  | none => unknown
  | some "ClientError" => client (ClientErrorClass.ofParts parts[1]? parts[2]?)
  | some "TransientError" => transient
  | some _ => database

/-- The name of a class. -/
def label : ServerErrorClass → String
  | client reason => "Client(" ++ reason.label ++ ")"
  | transient => "Transient"
  | database => "Database"
  | unknown => "Unknown"

end ServerErrorClass

/-- An error of the server. -/
structure ServerError where
  code : String
  message : String
  deriving DecidableEq, Repr

namespace ServerError

/-- The code in use today for one that older servers send: a transaction that was ended on request
is no passing trouble. -/
def currentCode : String → String
  | "Neo.TransientError.Transaction.Terminated" => "Neo.ClientError.Transaction.Terminated"
  | "Neo.TransientError.Transaction.LockClientStopped" =>
      "Neo.ClientError.Transaction.LockClientStopped"
  | code => code

/-- The error that a failure tells. One without a code tells nothing. -/
def ofFailure : Option String → String → ServerError
  | some code, message => ⟨currentCode code, message⟩
  | none, _ => ⟨"", ""⟩

/-- The sentence for readers. -/
def text (error : ServerError) : String :=
  "Neo4j error `" ++ error.code ++ "`: " ++ error.message

/-- The diagnostic form. -/
def diagnostic (error : ServerError) : String :=
  "Neo4j(Neo4jError \x7b kind: " ++ (ServerErrorClass.ofCode error.code).label ++ ", code: " ++
    Text.quoted error.code ++ ", message: " ++ Text.quoted error.message ++ " \x7d)"

/-- The kind of failure of a security error. -/
def securityKind : SecurityClass → FailureKind
  | .authentication => .authentication
  | .authorizationExpired => .authentication
  | .tokenExpired => .authentication
  | .other => .accessDenied
  | .unknown => .accessDenied

/-- The kind of failure that a text tells; one that tells none is a failure of the statement. -/
def textKind (text : String) : FailureKind :=
  match FailureKind.ofMessage text with
  | .other => .query
  | kind => kind

/-- The kind of failure of an error. -/
def kind (error : ServerError) : FailureKind :=
  match ServerErrorClass.ofCode error.code with
  | .client (.security reason) => securityKind reason
  | _ => textKind error.text

theorem kind_of_security {error : ServerError} {reason : SecurityClass}
    (h : ServerErrorClass.ofCode error.code = .client (.security reason)) :
    error.kind = securityKind reason := by
  simp [kind, h]

theorem kind_of_not_security {error : ServerError}
    (h : ∀ reason, ServerErrorClass.ofCode error.code ≠ .client (.security reason)) :
    error.kind = textKind error.text := by
  unfold kind
  split
  · exact absurd ‹_› (h _)
  · rfl

end ServerError

end Preflight
