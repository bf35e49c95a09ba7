import Preflight.Json.Basic
import Preflight.Text.Search

/-!
# Documents and what is wrong with them

Reading a document and decoding it into a record report the same kind of error:
a cause, and the place in the text where it shows. A place is a line, counted
from one, and a column, which counts the bytes passed on that line.

A text is first read into a `Doc`, a tree that keeps the places of its parts and,
where the text stops being JSON, the fault found there. Decoders then walk the
tree from the front, so the first error in the order of the text is the one
reported, whether it is a fault of the text or of its meaning.

A member that nobody asked for is *skipped*. Skipping checks less than reading:
a number may be out of range, a string may hold half of a surrogate pair. Where
the two see a fault differently, a `Flaw` keeps both reports.

A document can also be made from a value instead of a text. Then there are no
places, and an error carries none.
-/

namespace Preflight

/-- A place in a text: a line, and the bytes passed on it. -/
structure Place where
  line : Nat
  column : Nat
  deriving DecidableEq, Repr, Inhabited

/-- A place, or none if the document was not read from a text. -/
abbrev Spot := Option Place

/-- The place one byte further on the same line: where a single character, just seen, ends. -/
def Spot.peek (spot : Spot) : Spot :=
  spot.map fun place => { place with column := place.column + 1 }

/-- A fault that ends the reading of a text. -/
inductive TextFault where
  | endInArray
  | endInObject
  | endInString
  | endInValue
  | colonExpected
  | commaOrBracketExpected
  | commaOrBraceExpected
  | wordExpected
  | valueExpected
  | badEscape
  | badNumber
  | numberOutOfRange
  | controlInString
  | keyNotString
  | loneSurrogate
  | trailingComma
  | trailingCharacters
  | endOfEscape
  deriving DecidableEq, Repr

/-- The sentence for readers. -/
def TextFault.message : TextFault → String
  | endInArray => "EOF while parsing a list"
  | endInObject => "EOF while parsing an object"
  | endInString => "EOF while parsing a string"
  | endInValue => "EOF while parsing a value"
  | colonExpected => "expected `:`"
  | commaOrBracketExpected => "expected `,` or `]`"
  | commaOrBraceExpected => "expected `,` or `\x7d`"
  | wordExpected => "expected ident"
  | valueExpected => "expected value"
  | badEscape => "invalid escape"
  | badNumber => "invalid number"
  | numberOutOfRange => "number out of range"
  | controlInString => "control character (\\u0000-\\u001F) found while parsing a string"
  | keyNotString => "key must be a string"
  | loneSurrogate => "lone leading surrogate in hex escape"
  | trailingComma => "trailing comma"
  | trailingCharacters => "trailing characters"
  | endOfEscape => "unexpected end of hex escape"

/-- The cause of an error in reading or decoding a document. -/
inductive DecodeCause where
  /-- The text is no JSON. -/
  | text (fault : TextFault)
  /-- A value of one type stands where another is expected. -/
  | wrongType (found expected : String)
  /-- A value of the right type is out of bounds. -/
  | wrongValue (found expected : String)
  /-- An array has too few items. -/
  | wrongLength (count : Nat) (expected : String)
  | unknownVariant (name : String) (known : List String)
  | missingField (name : String)
  | duplicateField (name : String)
  /-- The text of a value is not of the form its type asks for. -/
  | refused (reason : String)
  deriving DecidableEq, Repr

namespace DecodeCause

/-- A name between back quotes. -/
def ticked (name : String) : String := "`" ++ name ++ "`"

/-- The names to choose from, as the end of a sentence. -/
def choice : List String → String
  | [] => "there are no variants"
  | [only] => "expected " ++ ticked only
  | [first, second] => "expected " ++ ticked first ++ " or " ++ ticked second
  | names => "expected one of " ++ Text.joined ", " (names.map ticked)

/-- The sentence for readers. -/
def message : DecodeCause → String
  | text fault => fault.message
  | wrongType found expected => "invalid type: " ++ found ++ ", expected " ++ expected
  | wrongValue found expected => "invalid value: " ++ found ++ ", expected " ++ expected
  | wrongLength count expected =>
      "invalid length " ++ Text.decimal count ++ ", expected " ++ expected
  | unknownVariant name known => "unknown variant " ++ ticked name ++ ", " ++ choice known
  | missingField name => "missing field " ++ ticked name
  | duplicateField name => "duplicate field " ++ ticked name
  | refused reason => reason

end DecodeCause

/-- An error in reading or decoding a document. -/
structure DecodeError where
  cause : DecodeCause
  spot : Spot
  deriving DecidableEq, Repr

namespace DecodeError

/-- A fault of the text at a place. -/
def fault (fault : TextFault) (spot : Spot) : DecodeError := ⟨.text fault, spot⟩

/-- The sentence for readers, with the place where there is one. -/
def message (error : DecodeError) : String :=
  match error.spot with
  | none => error.cause.message
  | some place =>
      error.cause.message ++ " at line " ++ Text.decimal place.line ++ " column " ++
        Text.decimal place.column

end DecodeError

/-- A fault of a text, as it shows to a reader of the value and to one who skips it. -/
structure Flaw where
  reading : DecodeError
  skipping : DecodeError
  deriving Repr

/-- A fault that shows in the same way to both. -/
def Flaw.same (fault : TextFault) (spot : Spot) : Flaw :=
  ⟨.fault fault spot, .fault fault spot⟩

/-- How a value begins that breaks off before its end. -/
inductive Opening where
  /-- The beginning of the word `null`. -/
  | nullWord
  /-- A quotation mark. -/
  | quote
  /-- The beginning of another word or of a number. -/
  | plain
  /-- Nothing that begins a value. -/
  | nothing
  deriving DecidableEq, Repr

/-- The name of a member: its text, the place behind it, and the place reached when the blanks
behind it, and a closing brace after them, are passed too. -/
structure Key where
  name : Except DecodeError String
  stop : Spot
  beyond : Spot

mutual

/-- A value of a document with its places, or the fault that it breaks off at. `start` is the
place before the value and `stop` the place behind it. -/
inductive Doc where
  | null (start stop : Spot)
  | bool (value : Bool) (start stop : Spot)
  | number (value : Except DecodeError JsonNumber) (start stop : Spot)
  | string (value : Except DecodeError String) (start stop : Spot)
  | array (items : Items) (start : Spot)
  | object (members : Members) (start : Spot)
  | broken (opening : Opening) (flaw : Flaw) (start : Spot)

/-- The items of an array from some place on. -/
inductive Items where
  | item (value : Doc) (rest : Items)
  | closed (stop : Spot)
  /-- A fault between items; `ending` is the report of a reader who expects no more of them. -/
  | broken (flaw : Flaw) (ending : DecodeError)

/-- The members of an object from some place on. -/
inductive Members where
  /-- A member; `after` is the place behind its value and the blanks that follow. -/
  | member (key : Key) (value : Doc) (after : Spot) (rest : Members)
  | closed (stop : Spot)
  | broken (flaw : Flaw)
  /-- An object whose first name is not a string, but the value `found`. -/
  | keyless (found : Doc) (flaw : Flaw)

end

/-- A text read as a document: its value, and the place of what follows where nothing may. -/
structure Page where
  root : Doc
  surplus : Option Place

namespace Doc

/-- The place before a value. -/
def start : Doc → Spot
  | null s _ => s
  | bool _ s _ => s
  | number _ s _ => s
  | string _ s _ => s
  | array _ s => s
  | object _ s => s
  | broken _ _ s => s

mutual

/-- The fault that a reader meets who skips a value. -/
def skip : Doc → Except DecodeError Unit
  | broken _ flaw _ => .error flaw.skipping
  | array items _ => skipItems items
  | object members _ => skipMembers members
  | _ => .ok ()

/-- The fault that a reader meets who skips items. -/
def skipItems : Items → Except DecodeError Unit
  | .item value rest =>
      match skip value with
      | .error e => .error e
      | .ok () => skipItems rest
  | .closed _ => .ok ()
  | .broken flaw _ => .error flaw.skipping

/-- The fault that a reader meets who skips members. -/
def skipMembers : Members → Except DecodeError Unit
  | .member _ value _ rest =>
      match skip value with
      | .error e => .error e
      | .ok () => skipMembers rest
  | .closed _ => .ok ()
  | .broken flaw => .error flaw.skipping
  | .keyless _ flaw => .error flaw.skipping

end

mutual

/-- The value of a document, every part of it read. -/
def toJson : Doc → Except DecodeError Json
  | null _ _ => .ok .null
  | bool b _ _ => .ok (.bool b)
  | number n _ _ => n.map .number
  | string s _ _ => s.map .string
  | array items _ => (itemsToJson items).map .array
  | object members _ => (membersToJson members).map .object
  | broken _ flaw _ => .error flaw.reading

/-- The values of the items of an array. -/
def itemsToJson : Items → Except DecodeError (List Json)
  | .item value rest =>
      match toJson value with
      | .error e => .error e
      | .ok v => (itemsToJson rest).map (v :: ·)
  | .closed _ => .ok []
  | .broken flaw _ => .error flaw.reading

/-- The names and values of the members of an object. -/
def membersToJson : Members → Except DecodeError (List (String × Json))
  | .member key value _ rest =>
      match key.name with
      | .error e => .error e
      | .ok name =>
          match toJson value with
          | .error e => .error e
          | .ok v => (membersToJson rest).map ((name, v) :: ·)
  | .closed _ => .ok []
  | .broken flaw => .error flaw.reading
  | .keyless _ flaw => .error flaw.reading

end

mutual

/-- The document of a value that was not read from a text. -/
def ofJson : Json → Doc
  | .null => null none none
  | .bool b => bool b none none
  | .number n => number (.ok n) none none
  | .string s => string (.ok s) none none
  | .array items => array (itemsOfJson items) none
  | .object members => object (membersOfJson members) none

/-- The items of an array that was not read from a text. -/
def itemsOfJson : List Json → Items
  | [] => .closed none
  | value :: rest => .item (ofJson value) (itemsOfJson rest)

/-- The members of an object that was not read from a text. -/
def membersOfJson : List (String × Json) → Members
  | [] => .closed none
  | (name, value) :: rest =>
      .member ⟨.ok name, none, none⟩ (ofJson value) none (membersOfJson rest)

end

end Doc

end Preflight
