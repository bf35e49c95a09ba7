import Preflight.Text.Quoted

/-!
# Messages of the Bolt protocol

A client opens a link, offers versions of the protocol and is greeted with the
one that the peer chose. From then on the two take turns: each request of the
client is answered by one reply. A reply to `pull` carries the rows asked for;
the others carry none.

Client and peer may first have to secure their session. How that ends depends on
certificates, on those that the client trusts and on the date, none of which are
known here: whether the two come to terms is part of the greeting.
-/

namespace Preflight

/-- What a peer does with a link that was just opened. -/
inductive BoltGreeting where
  /-- It chooses a version of the protocol. -/
  | version (number : Nat)
  /-- It secures the session, which the client trusts, and greets it there. -/
  | secured (greeting : BoltGreeting)
  /-- It tries to secure the session, but the client does not trust it or one of the two gives up;
  the client has a text and a diagnostic form for that. -/
  | distrusted (text detail : String)
  /-- It sends something else and closes the link. -/
  | bytes (data : List UInt8)
  | hangUp
  /-- It never answers. -/
  | silence
  deriving DecidableEq, Repr

namespace BoltGreeting

/-- Does a client speak a version? The low byte is the major number, the one above it the minor. -/
def speaks (number : Nat) : Bool := number = 4 || number = 260

/-- May a record of a secured session begin with a byte? -/
def beginsRecord (byte : Nat) : Bool := 20 ≤ byte && byte ≤ 24

/-- The version that a peer chooses and that a client gets to know, if the link stays open: a client
of secured sessions takes no part in others, and the other way round. -/
def chosen? : Bool → BoltGreeting → Option Nat
  | false, version number => some number
  | true, secured (version number) => some number
  | _, _ => none

/-- The number in the first four bytes, the highest byte first. -/
def number? : List UInt8 → Option Nat
  | a :: b :: c :: d :: _ =>
      some (((a.toNat * 256 + b.toNat) * 256 + c.toNat) * 256 + d.toNat)
  | _ => none

end BoltGreeting

/-- A request of a client. -/
inductive BoltRequest where
  | hello (user password : String) (routing : Bool)
  | start (database : String)
  | statement (text database : String)
  /-- Ask for at most `count` rows. -/
  | pull (count : Nat)
  | discard
  | rollback
  | reset
  deriving DecidableEq, Repr

/-- The kinds of request. -/
inductive BoltRequestKind where
  | hello
  | start
  | statement
  | pull
  | discard
  | rollback
  | reset
  deriving DecidableEq, Repr

/-- The kind of a request. -/
def BoltRequest.kind : BoltRequest → BoltRequestKind
  | hello .. => .hello
  | start _ => .start
  | statement .. => .statement
  | pull _ => .pull
  | discard => .discard
  | rollback => .rollback
  | reset => .reset

namespace BoltRequestKind

/-- All kinds. -/
def all : List BoltRequestKind := [hello, start, statement, pull, discard, rollback, reset]

/-- The name that the protocol has for a kind. -/
def label : BoltRequestKind → String
  | hello => "HELLO"
  | start => "BEGIN"
  | statement => "RUN"
  | pull => "PULL"
  | discard => "DISCARD"
  | rollback => "ROLLBACK"
  | reset => "RESET"

end BoltRequestKind

/-- What a peer answers, up to where the client has heard enough. Rows in front of a failure are
passed by a client that counts all rows, so `failure` stands for these answers too. -/
inductive BoltReply where
  /-- The request was carried out; `more` tells that rows are left. -/
  | success (rows : Nat) (more : Bool)
  /-- The request failed. -/
  | failure (code : Option String) (message : String)
  /-- Rows, and never a word on the request. -/
  | record
  /-- A message that is not of the protocol. -/
  | stray
  /-- The link is closed. -/
  | hangUp
  deriving DecidableEq, Repr

namespace BoltReply

/-- The reply of a peer that does what it is asked. -/
def done : BoltReply := success 0 false

/-- A text in a diagnostic form. -/
def wrapped (text : String) : String := "BoltString \x7b value: " ++ Text.quoted text ++ " \x7d"

/-- One entry of the data of a failure. -/
def entryText (name value : String) : String := wrapped name ++ ": String(" ++ wrapped value ++ ")"

/-- The entries of the data of a failure. They are those of a map, which are shown in an order that
is not fixed; here the code stands in front. -/
def entriesText : Option String → String → String
  | none, message => entryText "message" message
  | some code, message => entryText "code" code ++ ", " ++ entryText "message" message

/-- The diagnostic form of a reply that was not expected. -/
def diagnostic : BoltReply → String
  | failure code message =>
      "Failure(Failure \x7b metadata: BoltMap \x7b value: \x7b" ++ entriesText code message ++
        "\x7d \x7d \x7d)"
  | record =>
      "Record(Record \x7b data: BoltList \x7b value: [Integer(BoltInteger \x7b value: 1 \x7d)] " ++
        "\x7d \x7d)"
  | success .. => "Success"
  | stray => "Unknown"
  | hangUp => "Closed"

end BoltReply

end Preflight
