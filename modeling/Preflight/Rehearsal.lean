import Preflight.Bolt.Net
import Preflight.Http.Exchange

/-!
# Rehearsals

A rehearsal is a document that says what the peers will do. The member `server`
is the script of the graph: for the opening of a link and for each kind of
request the list of its replies. The member `responses` lists the turns of the
catalog. Whatever the document leaves open is granted.

| reply                               | meaning                                   |
|-------------------------------------|-------------------------------------------|
| `"ok"`                              | what is asked for is done                 |
| `{"fail": {"code", "message"}}`     | it fails                                  |
| `{"rows": n, "more": b}`            | `n` rows, and whether more are left       |
| `"record"`                          | a row alone                               |
| `"ignored"`                         | a message that is not of the protocol     |
| `"close"`                           | the link is closed                        |

The opening of a link is replied to by the number of a version, by `"close"`, by
`"silent"` or by `{"raw": text}`. A turn of the catalog is `"refuse"`, `{"raw":
text}` or a status with a body.
-/

namespace Preflight

namespace Rehearsal

/-- The elements of a member that is a list. -/
def listAt (name : String) (document : Json) : List Json :=
  match document.get? name with
  | some (.array elements) => elements
  | _ => []

/-- The text of a member that is a string. -/
def stringAt? (name : String) (document : Json) : Option String :=
  match document.get? name with
  | some (.string text) => some text
  | _ => none

/-- The value of a member that is a natural number. -/
def naturalAt (name : String) (document : Json) : Nat :=
  match document.get? name with
  | some (.number (.natural n)) => n
  | _ => 0

/-- Is a member true? -/
def isTrueAt (name : String) (document : Json) : Bool :=
  match document.get? name with
  | some (.bool value) => value
  | _ => false

/-- How a link is greeted. -/
def greeting (document : Json) : BoltGreeting :=
  match document with
  | .number (.natural version) => .version version
  | .string "close" => .hangUp
  | .string "silent" => .silence
  | _ =>
      match stringAt? "raw" document with
      | some text => .bytes text.toUTF8.toList
      | none => .version 260

/-- A reply of the graph. -/
def boltReply (document : Json) : BoltReply :=
  match document with
  | .string "close" => .hangUp
  | .string "ignored" => .stray
  | .string "record" => .record
  | _ =>
      match document.get? "fail" with
      | some failure =>
          .failure (stringAt? "code" failure) ((stringAt? "message" failure).getD "")
      | none => .success (naturalAt "rows" document) (isTrueAt "more" document)

/-- The graph that follows a script, at an address. -/
def boltPeer (host : String) (port : Nat) (script : Json) : BoltPeer where
  host := host
  port := port
  greetings := (listAt "OPEN" script).map greeting
  replies := BoltRequestKind.all.flatMap fun kind =>
    (listAt kind.label script).map fun reply => (kind, boltReply reply)

/-- A turn of the catalog. -/
def webTurn (document : Json) : WebTurn :=
  match document with
  | .string _ => .refused
  | _ =>
      match stringAt? "raw" document with
      | some text => .ofText text
      | none =>
          let body := (stringAt? "body" document).getD ""
          .ofText ("HTTP/1.1 " ++ Text.decimal (naturalAt "status" document) ++
            " X\r\ncontent-length: " ++ Text.decimal body.utf8ByteSize ++ "\r\n\r\n" ++ body)

end Rehearsal

end Preflight
