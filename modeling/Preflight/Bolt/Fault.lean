import Preflight.Bolt.Message
import Preflight.Bolt.ServerError
import Preflight.Url

/-!
# What goes wrong between client and peer

A `LinkFault` ends an exchange before a reply is there; a `BoltFault` is
anything that keeps a client from what it wants. Each has a sentence for readers
and a diagnostic form, and `BoltFault.kind` is the kind of failure that it is.

`BoltFault.ofAnswer` says what a client makes of an answer. Nothing but success
is good enough; which fault the rest is depends on the request.

## Main results

* `transportKind_ne` — a transport failure is never one of the statement, of the
  settings or without a kind.
* `ofAnswer_eq_ok_iff` — a request is carried out if and only if the peer says so.
-/

namespace Preflight

/-- Why an exchange came to no reply. -/
inductive LinkFault where
  /-- Nobody accepts connections at the address. -/
  | refused
  /-- The link was closed before a version was chosen. -/
  | closedEarly
  /-- The link was closed. -/
  | closed
  /-- What came is no part of a secured session. -/
  | notSecured
  /-- The link was closed before the session was secured. -/
  | closedUnsecured
  /-- Any other failure of the transport, with its text and its diagnostic form. -/
  | transport (text detail : String)
  /-- The client has no link to give. -/
  | unavailable
  /-- The message is not of the protocol. -/
  | strayMessage
  deriving DecidableEq, Repr

namespace LinkFault

/-- The bytes of a message that is not of the protocol. -/
def strayBytes : String := "b\"\\xb1~\\xda\\0\\0\\0\\0\""

/-- The sentence for readers. -/
def message : LinkFault → String
  | refused => "an IO error occurred: Connection refused (os error 111)"
  | closedEarly => "an IO error occurred: early eof"
  | closed => "an IO error occurred: unexpected end of file"
  | notSecured => "an IO error occurred: received corrupt message of type InvalidContentType"
  | closedUnsecured => "an IO error occurred: tls handshake eof"
  | transport text _ => "an IO error occurred: " ++ text
  | unavailable => "connection error"
  | strayMessage => "unknown message " ++ strayBytes

/-- The diagnostic form of a link that ended too early, with a text of its own. -/
def earlyEnd (text : String) : String :=
  "IOError \x7b detail: Custom \x7b kind: UnexpectedEof, error: " ++ Text.quoted text ++ " \x7d \x7d"

/-- The diagnostic form. -/
def diagnostic : LinkFault → String
  | refused =>
      "IOError \x7b detail: Os \x7b code: 111, kind: ConnectionRefused, " ++
        "message: \"Connection refused\" \x7d \x7d"
  | closedEarly => earlyEnd "early eof"
  | closed => "IOError \x7b detail: Kind(UnexpectedEof) \x7d"
  | notSecured =>
      "IOError \x7b detail: Custom \x7b kind: InvalidData, " ++
        "error: InvalidMessage(InvalidContentType) \x7d \x7d"
  | closedUnsecured => earlyEnd "tls handshake eof"
  | transport _ detail => "IOError \x7b detail: " ++ detail ++ " \x7d"
  | unavailable => "ConnectionError"
  | strayMessage => "UnknownMessage(" ++ Text.quoted strayMessage.message ++ ")"

/-- The kind of failure that a transport failure with a given message is. -/
def transportKind (message : String) : FailureKind :=
  (FailureKind.ofMessage message).orConnectivity

/-- The kind of failure. -/
def kind : LinkFault → FailureKind
  | strayMessage => FailureKind.ofMessage strayMessage.message
  | fault => transportKind fault.message

end LinkFault

/-- What keeps a client from what it wants. -/
inductive BoltFault where
  /-- The address is no URI. -/
  | badAddress (fault : UrlFault)
  /-- The URI is for a protocol that the client does not speak. -/
  | badScheme (scheme : String)
  /-- The host can have no certificate. -/
  | badName (host : String)
  /-- The peer chose a version that the client does not speak. -/
  | badVersion (number : Nat)
  | link (fault : LinkFault)
  | loginRefused (reason : String)
  | server (error : ServerError)
  /-- A reply that is no answer to the request. -/
  | unexpected (request : BoltRequestKind) (reply : BoltReply)
  /-- The rows broke off. -/
  | brokenOff (fault : LinkFault)
  /-- The peer does not answer. The opening of a session is bounded in time and ends like this. Any
  other talk would wait as long as the peer is silent; it has the same end, for a talk has one. -/
  | silence
  deriving DecidableEq, Repr

namespace BoltFault

/-- A reply as the fault shows it. The replies to a request that belongs to a statement are shown
as results. -/
def replyText (request : BoltRequestKind) (reply : BoltReply) : String :=
  match request with
  | .statement => "Ok(" ++ reply.diagnostic ++ ")"
  | .pull => "Ok(" ++ reply.diagnostic ++ ")"
  | .discard => "Ok(" ++ reply.diagnostic ++ ")"
  | _ => reply.diagnostic

/-- The sentence on a response that was not expected. -/
def unexpectedText (request : BoltRequestKind) (response : String) : String :=
  "unexpected response for " ++ request.label ++ ": " ++ response

/-- The sentence for readers. -/
def message : BoltFault → String
  | badAddress fault => "Invalid URI: " ++ fault.message
  | badScheme scheme => "Unsupported URI scheme: " ++ scheme
  | badName host => "Invalid DNS name: " ++ host
  | badVersion number => "version " ++ Text.decimal number ++ " is not supported"
  | link fault => fault.message
  | loginRefused reason => reason
  | server error => error.text
  | unexpected request reply => unexpectedText request (replyText request reply)
  | brokenOff fault => unexpectedText .pull ("Err(" ++ fault.diagnostic ++ ")")
  | silence => "no response"

/-- A sentence with the name of its kind in front. -/
def named (name : String) (fault : BoltFault) : String :=
  name ++ "(" ++ Text.quoted fault.message ++ ")"

/-- The diagnostic form. -/
def diagnostic : BoltFault → String
  | badAddress fault => "UrlParseError(" ++ fault.label ++ ")"
  | badScheme scheme => "UnsupportedScheme(" ++ Text.quoted scheme ++ ")"
  | badName host => "InvalidDnsName(" ++ Text.quoted host ++ ")"
  | badVersion number => named "UnsupportedVersion" (badVersion number)
  | link fault => fault.diagnostic
  | loginRefused reason => "AuthenticationError(" ++ Text.quoted reason ++ ")"
  | server error => error.diagnostic
  | unexpected request reply => named "UnexpectedMessage" (unexpected request reply)
  | brokenOff fault => named "UnexpectedMessage" (brokenOff fault)
  | silence => "Elapsed(())"

/-- The kind of failure. -/
def kind : BoltFault → FailureKind
  | badAddress _ => .invalidConfig
  | badScheme _ => .invalidConfig
  | badName _ => .invalidConfig
  | link fault => fault.kind
  | loginRefused _ => .authentication
  | server error => error.kind
  | silence => .timeout
  | fault => FailureKind.ofMessage fault.message

/-- What a client makes of the answer to a request: the rows that came with it and whether more of
them are left, or else a fault. -/
def ofAnswer (request : BoltRequestKind) :
    Except LinkFault BoltReply → Except BoltFault (Nat × Bool)
  | .error fault => .error (if request = .pull then brokenOff fault else link fault)
  | .ok (.success rows more) => .ok (rows, more)
  | .ok (.failure code text) =>
      .error <| match request with
        | .hello => loginRefused text
        | .statement => server (ServerError.ofFailure code text)
        | .discard => server (ServerError.ofFailure code text)
        | _ => unexpected request (.failure code text)
  | .ok .record => .error (if request = .pull then silence else unexpected request .record)
  | .ok reply => .error (unexpected request reply)

theorem ofAnswer_eq_ok_iff {request : BoltRequestKind} {answer : Except LinkFault BoltReply}
    {rows : Nat} {more : Bool} :
    ofAnswer request answer = .ok (rows, more) ↔ answer = .ok (.success rows more) := by
  constructor
  · intro h
    unfold ofAnswer at h
    split at h <;> simp_all
  · rintro rfl
    rfl

end BoltFault

namespace FailureKind

theorem firstMatch_mem_or_other (text : List Char) :
    ∀ table : List (FailureKind × List String),
      firstMatch text table = other ∨ firstMatch text table ∈ table.map Prod.fst
  | [] => .inl rfl
  | (kind, pieces) :: rest => by
      unfold firstMatch
      split
      · exact .inr (by simp)
      · rcases firstMatch_mem_or_other text rest with h | h
        · exact .inl h
        · exact .inr (List.mem_cons_of_mem _ h)

/-- No message tells that the settings are wrong. -/
theorem ofMessage_ne_invalidConfig (message : String) : ofMessage message ≠ invalidConfig := by
  intro h
  rcases firstMatch_mem_or_other (Text.foldCase message.toList) fragments with g | g
  · exact absurd (h.symm.trans g) (by decide)
  · rw [show firstMatch _ fragments = invalidConfig from h] at g
    exact absurd g (by decide)

end FailureKind

/-- A transport failure, whatever its message, is never one of the statement, of the settings or
without a kind. -/
theorem LinkFault.transportKind_ne (message : String) :
    transportKind message ≠ .query ∧ transportKind message ≠ .other ∧
      transportKind message ≠ .invalidConfig := by
  have h := FailureKind.ofMessage_ne_invalidConfig message
  unfold transportKind
  cases hk : FailureKind.ofMessage message <;> simp_all [FailureKind.orConnectivity]

end Preflight
