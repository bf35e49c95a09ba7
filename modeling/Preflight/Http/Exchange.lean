import Preflight.Act
import Preflight.Http.Reply
import Preflight.Url.Parser

/-!
# Requests and the exchange with a server

The world of a client is a `Web`: the turns that servers will take, in order, and
a log of what reached them. Each request is one turn. When no turns are left,
servers grant whatever is asked.

`send` follows redirections, at most ten, and only to places that are reached over
HTTP. What is sent there is the same request, body and all, with two exceptions. A
reply with status 303 says where an answer can be seen, so what follows it fetches
something and has no body; and so does what follows a 301 or 302 to a request that
posts. Credentials do not go along to another host.
-/

namespace Preflight

/-- A request of a client. -/
structure Request where
  method : String
  url : Url
  contentType : Option String
  authorization : Option String
  body : Option String
  deriving DecidableEq, Repr

/-- What a server does when a client turns to it. -/
inductive WebTurn where
  /-- It does not accept the connection. -/
  | refused
  | reply (reply : Reply)
  /-- It sends something that is no reply, or nothing. -/
  | garbled
  deriving DecidableEq, Repr

namespace WebTurn

/-- The turn of a server that sends a text and closes the connection. -/
def ofText (text : String) : WebTurn :=
  match Reply.ofText? text with
  | some r => reply r
  | none => garbled

/-- The turn of a server that grants a request. -/
def granted : WebTurn := reply ⟨200, [], ""⟩

end WebTurn

/-- What the servers saw of a client. -/
inductive WebSight where
  /-- A connection that was not accepted. -/
  | refusal
  | request (request : Request)
  deriving DecidableEq, Repr

/-- The servers that a client turns to. -/
structure Web where
  /-- The turns to come. -/
  turns : List WebTurn := []
  /-- What was seen so far. -/
  seen : List WebSight := []
  deriving DecidableEq, Repr

/-- Why a request got no reply. -/
inductive SendFault where
  /-- No connection was made. -/
  | unreachable (url : Url)
  /-- The connection broke off, or what came was no reply. -/
  | broken (url : Url)
  | tooManyRedirections (url : Url)
  /-- A redirection leads to a place that is not reached over HTTP. -/
  | badScheme (url : Url)
  deriving DecidableEq, Repr

namespace SendFault

/-- The sentence for readers. -/
def message : SendFault → String
  | unreachable url => "error sending request for url (" ++ url.text ++ ")"
  | broken url => "error sending request for url (" ++ url.text ++ ")"
  | tooManyRedirections url => "error following redirect for url (" ++ url.text ++ ")"
  | badScheme url => "builder error for url (" ++ url.text ++ ")"

/-- May trying again help? -/
def isTransient : SendFault → Bool
  | unreachable _ => true
  | _ => false

end SendFault

namespace Web

/-- Let the servers take a turn at a request. -/
def turn (request : Request) : Act Web WebTurn :=
  Act.change fun web =>
    let now := web.turns.headD .granted
    let sight := match now with
      | .refused => .refusal
      | _ => .request request
    (now, ⟨web.turns.tail, web.seen ++ [sight]⟩)

/-- The status that tells where an answer can be seen. -/
def isSeeOther (status : Nat) : Bool := status = 303

/-- The statuses that tell where to send a request, unless it posts something. -/
def isFound (status : Nat) : Bool := status = 301 || status = 302

/-- The statuses that tell where to send a request, whatever it does. -/
def isMoved (status : Nat) : Bool := status = 307 || status = 308

/-- Is a request followed by one that only fetches something? -/
def isFetchedNext (request : Request) (status : Nat) : Bool :=
  isSeeOther status || (isFound status && request.method = "POST")

/-- The request that a redirection asks for. -/
def redirected? (request : Request) (reply : Reply) : Option Request := do
  let location ← Reply.header? reply.headers "location"
  let url ← (request.url.follow location).toOption
  let sameHost := url.host = request.url.host ∧ url.port? = request.url.port?
  let authorization := if sameHost then request.authorization else none
  if isFetchedNext request reply.status then
    some ⟨if request.method = "HEAD" then "HEAD" else "GET", url, none, authorization, none⟩
  else if isFound reply.status || isMoved reply.status then
    some { request with url, authorization }
  else none

/-- Is a place reached over HTTP? -/
def isReached (url : Url) : Bool := url.scheme = "http" || url.scheme = "https"

/-- Send a request and follow at most `left` redirections. A failure on the way is told of `start`,
where the chain began. -/
def sendFollowing (start : Url) : Nat → Request → Act Web (Except SendFault Reply)
  | left, request => do
      match ← turn request with
      | .refused => return .error (.unreachable start)
      | .garbled => return .error (.broken start)
      | .reply reply =>
          match redirected? request reply with
          | none => return .ok reply
          | some next =>
              match left with
              | 0 => return .error (.tooManyRedirections request.url)
              | left + 1 =>
                  if isReached next.url then sendFollowing start left next
                  else return .error (.badScheme next.url)

/-- The greatest number of redirections that are followed. -/
def redirectionLimit : Nat := 10

/-- Send a request. -/
def send (request : Request) : Act Web (Except SendFault Reply) :=
  sendFollowing request.url redirectionLimit request

end Web

end Preflight
