import Preflight.Text.Blank
import Preflight.Text.Decimal
import Preflight.Text.Search

/-!
# Replies of an HTTP server

A reply is a status, headers and a body. `Reply.ofText?` reads one off everything
that a server sent before it closed the connection: a status line, header lines,
an empty line and the body.

The `Framing` of the body is settled by the head alone: a length, chunks, or the
end of the connection. A body that breaks off before its frame is complete cannot
be read and counts as empty; a head that does, or that announces no sensible
frame, is no reply at all.
-/

namespace Preflight

/-- A reply of a server; header names are in lower case. -/
structure Reply where
  status : Nat
  headers : List (String × String) := []
  body : String := ""
  deriving DecidableEq, Repr

namespace Reply

/-! ## Statuses -/

/-- The standard reason phrases. -/
def reasons : List (Nat × String) :=
  [(100, "Continue"), (101, "Switching Protocols"), (102, "Processing"), (200, "OK"),
   (201, "Created"), (202, "Accepted"), (203, "Non Authoritative Information"),
   (204, "No Content"), (205, "Reset Content"), (206, "Partial Content"), (207, "Multi-Status"),
   (208, "Already Reported"), (226, "IM Used"), (300, "Multiple Choices"),
   (301, "Moved Permanently"), (302, "Found"), (303, "See Other"), (304, "Not Modified"),
   (305, "Use Proxy"), (307, "Temporary Redirect"), (308, "Permanent Redirect"),
   (400, "Bad Request"), (401, "Unauthorized"), (402, "Payment Required"), (403, "Forbidden"),
   (404, "Not Found"), (405, "Method Not Allowed"), (406, "Not Acceptable"),
   (407, "Proxy Authentication Required"), (408, "Request Timeout"), (409, "Conflict"),
   (410, "Gone"), (411, "Length Required"), (412, "Precondition Failed"),
   (413, "Payload Too Large"), (414, "URI Too Long"), (415, "Unsupported Media Type"),
   (416, "Range Not Satisfiable"), (417, "Expectation Failed"), (418, "I'm a teapot"),
   (421, "Misdirected Request"), (422, "Unprocessable Entity"), (423, "Locked"),
   (424, "Failed Dependency"), (425, "Too Early"), (426, "Upgrade Required"),
   (428, "Precondition Required"), (429, "Too Many Requests"),
   (431, "Request Header Fields Too Large"), (451, "Unavailable For Legal Reasons"),
   (500, "Internal Server Error"), (501, "Not Implemented"), (502, "Bad Gateway"),
   (503, "Service Unavailable"), (504, "Gateway Timeout"), (505, "HTTP Version Not Supported"),
   (506, "Variant Also Negotiates"), (507, "Insufficient Storage"), (508, "Loop Detected"),
   (510, "Not Extended"), (511, "Network Authentication Required")]

/-- A status with its reason phrase. -/
def statusText (status : Nat) : String :=
  Text.decimal status ++ " " ++ (reasons.lookup status).getD "<unknown status code>"

/-- Does the status say that the request was granted? -/
def isSuccess (reply : Reply) : Bool := 200 ≤ reply.status && reply.status < 300

/-- Does the status say that trying again may help? -/
def isTransient (reply : Reply) : Bool :=
  (500 ≤ reply.status && reply.status < 600) || reply.status = 429

/-- The first value of a header. -/
def header? (headers : List (String × String)) (name : String) : Option String :=
  headers.lookup name

/-! ## Reading -/

/-- The lines of a head, without their ends, and what follows the empty line; `none` if there is
no empty line. -/
def headLines? : List Char → List Char → Option (List (List Char) × List Char)
  | _, [] => none
  | line, '\r' :: '\n' :: rest =>
      if line.isEmpty then some ([], rest)
      else (headLines? [] rest).map fun (lines, body) => (line.reverse :: lines, body)
  | line, '\n' :: rest =>
      if line.isEmpty then some ([], rest)
      else (headLines? [] rest).map fun (lines, body) => (line.reverse :: lines, body)
  | line, c :: rest => headLines? (c :: line) rest

/-- A character that may stand in a line of a head. -/
def isLineChar (c : Char) : Bool := c = '\t' || (' ' ≤ c && c.toNat ≠ 127)

/-- What a status line says. -/
structure StatusLine where
  /-- Is it of the first version, which knows no chunks? -/
  isOldest : Bool
  status : Nat
  deriving DecidableEq, Repr

/-- Read a status line. -/
def statusLine? (line : List Char) : Option StatusLine :=
  let isOldest := "HTTP/1.0 ".toList.isPrefixOf line
  if (isOldest || "HTTP/1.1 ".toList.isPrefixOf line) && line.all isLineChar then
    let digits := (line.drop 9).take 3
    let rest := line.drop 12
    if digits.length = 3 && (rest.isEmpty || rest.head? = some ' ') then
      ((Text.natOfDigits? digits).filter (100 ≤ ·)).map fun status => ⟨isOldest, status⟩
    else none
  else none

/-- A character of a header name. -/
def isTokenChar (c : Char) : Bool :=
  c.isAlphanum || "!#$%&*+-.^_`|~".toList.contains c || c.toNat = 39

/-- A header line. -/
def headerOf? (line : List Char) : Option (String × String) :=
  let name := line.takeWhile (· ≠ ':')
  match line.dropWhile (· ≠ ':') with
  | _ :: value =>
      if name.isEmpty || !name.all isTokenChar || !value.all isLineChar then none
      else
        some (String.ofList (name.map Char.toLower), String.ofList (Text.trim value))
  | [] => none

/-! ## The frame of a body -/

/-- How the end of a body is told. -/
inductive Framing where
  | length (bytes : Nat)
  | chunks
  /-- The body ends with the connection. -/
  | untilClose
  deriving DecidableEq, Repr

/-- All values of a header. -/
def valuesOf (headers : List (String × String)) (name : String) : List String :=
  (headers.filter (·.1 = name)).map (·.2)

/-- The greatest length that a body can be announced with. -/
def lengthLimit : Nat := 0xFFFFFFFFFFFFFFFD

/-- The length that all announcements agree on. -/
def agreedLength? (announced : List String) : Option Nat :=
  let lengths := announced.flatMap fun value =>
    (Text.splitAtChar ',' value.toList).map fun piece => Text.natOfDigits? (Text.trim piece)
  match lengths with
  | some bytes :: others =>
      if others.all (· = some bytes) && bytes ≤ lengthLimit then some bytes else none
  | _ => none

/-- Is the last of some encodings the one by chunks? -/
def isChunked (encodings : String) : Bool :=
  match (Text.splitAtChar ',' encodings.toList).getLast? with
  | some last => (Text.trim last).map Char.toLower = "chunked".toList
  | none => false

/-- The framing that a head announces; `none` if it makes no sense. -/
def framing? (line : StatusLine) (headers : List (String × String)) : Option Framing :=
  match (valuesOf headers "transfer-encoding").getLast?, valuesOf headers "content-length" with
  | some encodings, _ =>
      if line.isOldest then none
      else some (if isChunked encodings then .chunks else .untilClose)
  | none, [] => some .untilClose
  | none, announced => (agreedLength? announced).map .length

/-- As many characters as fill a number of bytes, and the rest; `none` if there are not enough. -/
def takeBytes? : Nat → List Char → Option (List Char × List Char)
  | 0, cs => some ([], cs)
  | _ + 1, [] => none
  | count + 1, c :: rest =>
      (takeBytes? (count + 1 - c.utf8Size) rest).map fun (taken, rest) => (c :: taken, rest)

/-- May a text stand behind the size of a chunk on its line? -/
def isChunkExtension (cs : List Char) : Bool :=
  match cs with
  | [] => true
  | c :: _ => c = '\r' || c = ';' || c = ' ' || c = '\t'

/-- The size of a chunk in front, and what follows its line. -/
def chunkSize? (cs : List Char) : Option (Nat × List Char) :=
  let line := cs.takeWhile (· ≠ '\n')
  match cs.dropWhile (· ≠ '\n') with
  | [] => none
  | _ :: rest =>
      let digits := line.takeWhile fun c => (Text.hexValue? c).isSome
      if digits.isEmpty || !isChunkExtension (line.drop digits.length) then none
      else
        (digits.mapM Text.hexValue?).map fun values =>
          (values.foldl (fun n d => n * 16 + d) 0, rest)

/-- What follows the end of a line. -/
def afterLineEnd? : List Char → Option (List Char)
  | '\r' :: '\n' :: rest => some rest
  | _ => none

/-- The chunks of a body, at most `fuel` of them; `none` if they break off. -/
def chunks? : Nat → List Char → Option (List Char)
  | 0, _ => none
  | fuel + 1, cs => do
      let (size, rest) ← chunkSize? cs
      if size = 0 then
        let _ ← headLines? [] rest
        return []
      else
        let (chunk, rest) ← takeBytes? size rest
        let later ← chunks? fuel (← afterLineEnd? rest)
        return chunk ++ later

/-- The body in its frame; `none` if it breaks off. -/
def Framing.body? (framing : Framing) (rest : List Char) : Option (List Char) :=
  match framing with
  | length bytes => (takeBytes? bytes rest).map Prod.fst
  | chunks => chunks? (rest.length + 1) rest
  | untilClose => some rest

/-- A text without the mark of its byte order. -/
def withoutMark : List Char → List Char
  | '\uFEFF' :: rest => rest
  | cs => cs

/-- Does a status leave no room for a body? -/
def isBodiless (status : Nat) : Bool := status < 200 || status = 204 || status = 304

/-- Does a status only announce another reply? -/
def isInterim (status : Nat) : Bool := status < 200 && status ≠ 101

/-- Read a reply, passing over at most `fuel` interim ones. -/
def readFrom : Nat → List Char → Option Reply
  | 0, _ => none
  | fuel + 1, cs =>
      match headLines? [] (cs.dropWhile fun c => c = '\r' || c = '\n') with
      | some (first :: lines, rest) => do
          let line ← statusLine? first
          let headers ← lines.mapM headerOf?
          if isInterim line.status then readFrom fuel rest
          else if isBodiless line.status then some ⟨line.status, headers, ""⟩
          else
            let framing ← framing? line headers
            let body := withoutMark ((framing.body? rest).getD [])
            some ⟨line.status, headers, String.ofList body⟩
      | _ => none

/-- The reply in all that a server sent. -/
def ofText? (text : String) : Option Reply :=
  readFrom (text.toList.length + 1) text.toList

end Reply

end Preflight
