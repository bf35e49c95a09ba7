import Preflight.Json.Numeral

/-!
# Reading a text as a document

`Page.parse` turns any text into a document tree; a text that is no JSON gives a
tree that breaks off at the fault. Reading is a recursion with fuel. Every value
takes a character and at most three calls, so a fuel of four times the length of
the text never runs out, and `Page.parse` supplies it.

Columns count bytes. A fault that is seen before its character is taken shows
one byte behind the place reached (`Cursor.peek`), whatever the length of that
character; at the end of the text it shows at the end.
-/

namespace Preflight

/-- A place in a text together with what follows it. -/
structure Cursor where
  place : Place
  rest : List Char

/-- The place behind a character. -/
def Place.past (place : Place) (c : Char) : Place :=
  if c = '\n' then ⟨place.line + 1, 0⟩ else { place with column := place.column + c.utf8Size }

/-- The place behind the first byte of a character. -/
def Place.pastByte (place : Place) (c : Char) : Place :=
  if c = '\n' then ⟨place.line + 1, 0⟩ else { place with column := place.column + 1 }

namespace Cursor

/-- The place of the next character as a fault that is seen there shows it. -/
def peek (at' : Cursor) : Place :=
  match at'.rest with
  | [] => at'.place
  | c :: _ => at'.place.pastByte c

/-- The cursor some characters further on, none of them a line break. -/
def forward (at' : Cursor) (length : Nat) (rest : List Char) : Cursor :=
  ⟨{ at'.place with column := at'.place.column + length }, rest⟩

/-- White space between the parts of a document. -/
def isSpace (c : Char) : Bool := c = ' ' || c = '\n' || c = '\t' || c = '\r'

/-- The cursor behind the white space that follows a place. -/
def skipSpaceFrom : Place → List Char → Cursor
  | place, [] => ⟨place, []⟩
  | place, c :: rest =>
      if isSpace c then skipSpaceFrom (place.past c) rest else ⟨place, c :: rest⟩

/-- The cursor behind the white space that follows. -/
def skipSpace (at' : Cursor) : Cursor := skipSpaceFrom at'.place at'.rest

/-- The place behind a number of bytes, which may end inside a character. -/
def placeAfterBytes : Nat → Place → List Char → Place
  | _, place, [] => place
  | count, place, c :: rest =>
      if count = 0 then place
      else if c = '\n' then placeAfterBytes (count - 1) ⟨place.line + 1, 0⟩ rest
      else
        let width := min count c.utf8Size
        placeAfterBytes (count - width) { place with column := place.column + width } rest

end Cursor

namespace Page

/-! ## Strings -/

/-- The number of bytes of a text. -/
def byteCount (cs : List Char) : Nat := cs.foldl (fun count c => count + c.utf8Size) 0

/-- The four hexadecimal digits of an escape, and the fault if they are not there. -/
def hexEscape (place : Place) (cs : List Char) : Except DecodeError Nat :=
  if byteCount (cs.take 4) < 4 then
    .error (.fault .endInString (some (Cursor.placeAfterBytes 4 place cs)))
  else
    match (cs.take 4).mapM Text.hexValue? with
    | some [a, b, c, d] => .ok (((a * 16 + b) * 16 + c) * 16 + d)
    | _ => .error (.fault .badEscape (some (Cursor.placeAfterBytes 4 place cs)))

/-- The character of an escape that is one letter. -/
def letterEscape? (c : Char) : Option Char :=
  if c = '"' then some '"'
  else if c = '\\' then some '\\'
  else if c = '/' then some '/'
  else if c = 'b' then some '\u0008'
  else if c = 'f' then some '\u000C'
  else if c = 'n' then some '\n'
  else if c = 'r' then some '\r'
  else if c = 't' then some '\t'
  else none

/-- The second half of a surrogate pair, behind a first half. -/
def secondHalf (place : Place) (cs : List Char) : Except DecodeError Nat :=
  match cs with
  | [] => .error (.fault .endInString (some place))
  | c :: rest =>
      if c ≠ '\\' then .error (.fault .endOfEscape (some (place.pastByte c)))
      else
        let place := place.past c
        match rest with
        | [] => .error (.fault .endInString (some place))
        | d :: rest =>
            if d ≠ 'u' then .error (.fault .endOfEscape (some (place.pastByte d)))
            else
              let place := place.past d
              match hexEscape place rest with
              | .error e => .error e
              | .ok code =>
                  if 0xDC00 ≤ code && code ≤ 0xDFFF then .ok code
                  else .error (.fault .loneSurrogate (some (Cursor.placeAfterBytes 4 place rest)))

/-- The character of the escape behind a backslash, and the number of characters it takes. -/
def readEscape (place : Place) : List Char → Except DecodeError (Char × Nat)
  | [] => .error (.fault .endInString (some place))
  | c :: rest =>
      match letterEscape? c with
      | some x => .ok (x, 1)
      | none =>
          if c ≠ 'u' then .error (.fault .badEscape (some (place.pastByte c)))
          else
            let place := place.past c
            match hexEscape place rest with
            | .error e => .error e
            | .ok code =>
                let beyond := Cursor.placeAfterBytes 4 place rest
                if 0xDC00 ≤ code && code ≤ 0xDFFF then
                  .error (.fault .loneSurrogate (some beyond))
                else if 0xD800 ≤ code && code ≤ 0xDBFF then
                  match secondHalf beyond (rest.drop 4) with
                  | .error e => .error e
                  | .ok low =>
                      .ok (Char.ofNat (0x10000 + (code - 0xD800) * 0x400 + (low - 0xDC00)), 11)
                else .ok (Char.ofNat code, 5)

/-- The number of characters that the escape behind a backslash takes, if nobody asks for its
value. -/
def skipEscape (place : Place) : List Char → Except DecodeError Nat
  | [] => .error (.fault .endInString (some place))
  | c :: rest =>
      if (letterEscape? c).isSome then .ok 1
      else if c ≠ 'u' then .error (.fault .badEscape (some (place.pastByte c)))
      else (hexEscape (place.past c) rest).map fun _ => 5

/-- A control character, which a string holds only in escaped form. -/
def isControl (c : Char) : Bool := c.toNat < 32

/-- The text of a string behind its opening quote; the first `pass` characters belong to an escape
that has been read. -/
def readString : Nat → Place → List Char → Except DecodeError (List Char)
  | _, place, [] => .error (.fault .endInString (some place))
  | pass + 1, place, c :: rest => readString pass (place.past c) rest
  | 0, place, c :: rest =>
      if c = '"' then .ok []
      else if c = '\\' then
        match readEscape (place.past c) rest with
        | .error e => .error e
        | .ok (x, length) => (readString length (place.past c) rest).map (x :: ·)
      else if isControl c then .error (.fault .controlInString (some (place.pastByte c)))
      else (readString 0 (place.past c) rest).map (c :: ·)

/-- The cursor behind a string, from behind its opening quote, if nobody asks for its text. -/
def skipString : Nat → Place → List Char → Except DecodeError Cursor
  | _, place, [] => .error (.fault .endInString (some place))
  | pass + 1, place, c :: rest => skipString pass (place.past c) rest
  | 0, place, c :: rest =>
      if c = '"' then .ok ⟨place.past c, rest⟩
      else if c = '\\' then
        match skipEscape (place.past c) rest with
        | .error e => .error e
        | .ok length => skipString length (place.past c) rest
      else if isControl c then .error (.fault .controlInString (some place))
      else skipString 0 (place.past c) rest

/-! ## Words and numbers -/

/-- The cursor behind the letters of a word. -/
def readWord : List Char → Cursor → Except DecodeError Cursor
  | [], at' => .ok at'
  | letter :: letters, at' =>
      match at'.rest with
      | [] => .error (.fault .endInValue (some at'.place))
      | c :: rest =>
          if c = letter then readWord letters ⟨at'.place.past c, rest⟩
          else .error (.fault .wordExpected (some (at'.place.pastByte c)))

/-- The flaw of a numeral at some distance from the place where it begins. -/
def numeralFlaw (start : Cursor) (fault : Numeral.ScanFault) : Flaw :=
  let at' := start.forward fault.distance (start.rest.drop fault.distance)
  let spot := some (if fault.peeked then at'.peek else at'.place)
  ⟨.fault fault.reading spot, .fault fault.skipping spot⟩

/-- A numeral. -/
def readNumber (start : Cursor) : Doc × Option Cursor :=
  match Numeral.scan? start.rest with
  | .error fault => (.broken .plain (numeralFlaw start fault) (some start.place), none)
  | .ok scan =>
      let stop := start.forward scan.length scan.rest
      let value := match scan.parts.value? with
        | .ok n => .ok n
        | .error left =>
            .error (.fault .numberOutOfRange
              (some { stop.place with column := stop.place.column - left }))
      (.number value (some start.place) (some stop.place), some stop)

/-! ## Values -/

/-- A value that is a word. -/
def readWordValue (word : String) (opening : Opening) (make : Spot → Spot → Doc)
    (start : Cursor) : Doc × Option Cursor :=
  match readWord word.toList start with
  | .error e => (.broken opening ⟨e, e⟩ (some start.place), none)
  | .ok stop => (make (some start.place) (some stop.place), some stop)

/-- A string behind its opening quote. -/
def readStringValue (start : Place) (inside : Place) (rest : List Char) : Doc × Option Cursor :=
  let text := (readString 0 inside rest).map String.ofList
  match skipString 0 inside rest with
  | .ok stop => (.string text (some start) (some stop.place), some stop)
  | .error skipping =>
      let reading := match text with
        | .error e => e
        | .ok _ => skipping
      (.broken .quote ⟨reading, skipping⟩ (some start), none)

/-- A fault where a value was expected. -/
def noValue (start : Cursor) : Doc :=
  let fault : TextFault := if start.rest.isEmpty then .endInValue else .valueExpected
  .broken .nothing (.same fault (some start.peek)) (some start.place)

/-- The report of a reader of items who expects no more of them, between two items. -/
def itemsEnding (at' : Cursor) : DecodeError :=
  match at'.rest with
  | [] => .fault .endInArray (some at'.peek)
  | c :: rest =>
      if c = ',' then
        let next := (Cursor.mk (at'.place.past c) rest).skipSpace
        match next.rest with
        | ']' :: _ => .fault .trailingComma (some next.peek)
        | _ => .fault .trailingCharacters (some next.peek)
      else .fault .trailingCharacters (some at'.peek)

/-- The flaw between the name of a member and its value. -/
def colonFlaw (at' : Cursor) : Flaw :=
  .same (if at'.rest.isEmpty then .endInObject else .colonExpected) (some at'.peek)

/-- The place behind a closing brace if one follows, else the place itself. -/
def beyondBrace (at' : Cursor) : Place :=
  match at'.rest with
  | '\x7d' :: _ => at'.peek
  | _ => at'.place

mutual

/-- A value at a cursor behind white space, and the cursor behind it unless it breaks off. -/
def readValue : Nat → Cursor → Doc × Option Cursor
  | 0, at' => (noValue at', none)
  | fuel + 1, at' =>
      let start := at'.place
      match at'.rest with
      | [] => (noValue at', none)
      | c :: rest =>
          let inside : Cursor := ⟨start.past c, rest⟩
          if c = 'n' then readWordValue "null" .nullWord .null at'
          else if c = 't' then readWordValue "true" .plain (.bool true) at'
          else if c = 'f' then readWordValue "false" .plain (.bool false) at'
          else if c = '"' then readStringValue start inside.place rest
          else if c = '-' || Text.isDecimalDigit c then readNumber at'
          else if c = '[' then
            let (items, stop) := readItems fuel true inside.skipSpace
            (.array items (some start), stop)
          else if c = '\x7b' then
            let (members, stop) := readMembers fuel true inside.skipSpace
            (.object members (some start), stop)
          else (noValue at', none)

/-- The items of an array at a cursor behind white space; `first` tells that none came before. -/
def readItems : Nat → Bool → Cursor → Items × Option Cursor
  | 0, _, at' => (.broken (.same .endInArray (some at'.peek)) (itemsEnding at'), none)
  | fuel + 1, first, at' =>
      match at'.rest with
      | [] => (.broken (.same .endInArray (some at'.peek)) (itemsEnding at'), none)
      | c :: rest =>
          let next : Cursor := ⟨at'.place.past c, rest⟩
          if c = ']' then (.closed (some next.place), some next)
          else if first then readItem fuel at'
          else if c = ',' then
            let following := next.skipSpace
            match following.rest with
            | [] => (.broken (.same .endInValue (some following.peek)) (itemsEnding at'), none)
            | ']' :: _ =>
                (.broken ⟨.fault .trailingComma (some following.peek),
                  .fault .valueExpected (some following.peek)⟩ (itemsEnding at'), none)
            | _ => readItem fuel following
          else (.broken (.same .commaOrBracketExpected (some at'.peek)) (itemsEnding at'), none)

/-- One item and those that follow it. -/
def readItem : Nat → Cursor → Items × Option Cursor
  | 0, at' => (.broken (.same .endInArray (some at'.peek)) (itemsEnding at'), none)
  | fuel + 1, at' =>
      match readValue fuel at' with
      | (value, none) =>
          (.item value (.broken (.same .endInArray (some at'.peek)) (itemsEnding at')), none)
      | (value, some stop) =>
          let (items, stop) := readItems fuel false stop.skipSpace
          (.item value items, stop)

/-- The members of an object at a cursor behind white space; `first` tells that none came before. -/
def readMembers : Nat → Bool → Cursor → Members × Option Cursor
  | 0, _, at' => (.broken (.same .endInObject (some at'.peek)), none)
  | fuel + 1, first, at' =>
      match at'.rest with
      | [] =>
          let flaw := Flaw.same .endInObject (some at'.peek)
          (if first then .keyless (noValue at') flaw else .broken flaw, none)
      | c :: rest =>
          let next : Cursor := ⟨at'.place.past c, rest⟩
          if c = '\x7d' then (.closed (some next.place), some next)
          else if first then
            if c = '"' then readMember fuel at'.place next
            else
              (.keyless (readValue fuel at').1 (.same .keyNotString (some at'.peek)), none)
          else if c = ',' then
            let following := next.skipSpace
            match following.rest with
            | [] =>
                (.broken ⟨.fault .endInValue (some following.peek),
                  .fault .endInObject (some following.peek)⟩, none)
            | d :: rest =>
                if d = '"' then readMember fuel following.place ⟨following.place.past d, rest⟩
                else if d = '\x7d' then
                  (.broken ⟨.fault .trailingComma (some following.peek),
                    .fault .keyNotString (some following.peek)⟩, none)
                else (.broken (.same .keyNotString (some following.peek)), none)
          else (.broken (.same .commaOrBraceExpected (some at'.peek)), none)

/-- One member, from behind the opening quote of its name, and those that follow it. -/
def readMember : Nat → Place → Cursor → Members × Option Cursor
  | 0, start, at' =>
      (.keyless (readStringValue start at'.place at'.rest).1
        (.same .endInObject (some at'.peek)), none)
  | fuel + 1, start, at' =>
      match readStringValue start at'.place at'.rest with
      | (.string name _ stop, some behind) =>
          let gap := behind.skipSpace
          let key : Key := ⟨name, stop, some (beyondBrace gap)⟩
          match gap.rest with
          | ':' :: rest =>
              let (value, stop) := readValue fuel (Cursor.mk (gap.place.past ':') rest).skipSpace
              match stop with
              | none =>
                  (.member key value none (.broken (.same .endInObject (some gap.place))), none)
              | some stop =>
                  let following := stop.skipSpace
                  let (members, stop) := readMembers fuel false following
                  (.member key value (some following.place) members, stop)
          | _ =>
              let value := Doc.broken .nothing (colonFlaw gap) (some gap.place)
              (.member key value none (.broken (colonFlaw gap)), none)
      | (.broken _ flaw _, _) => (.broken flaw, none)
      | (_, _) => (.broken (.same .endInObject (some at'.peek)), none)

end

/-- The beginning of a text. -/
def start (text : String) : Cursor := ⟨⟨1, 0⟩, text.toList⟩

/-- Read a text as a document. -/
def parse (text : String) : Page :=
  let first := (start text).skipSpace
  let (root, stop) := readValue (4 * first.rest.length + 4) first
  let surplus := match stop with
    | none => none
    | some stop =>
        let last := stop.skipSpace
        if last.rest.isEmpty then none else some last.peek
  ⟨root, surplus⟩

end Page

/-- The value of a text that is one JSON value with nothing behind it. -/
def Json.parse (text : String) : Except DecodeError Json :=
  let page := Page.parse text
  match page.root.toJson with
  | .error e => .error e
  | .ok value =>
      match page.surplus with
      | none => .ok value
      | some place => .error (.fault .trailingCharacters (some place))

end Preflight
