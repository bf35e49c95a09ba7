import Preflight.Json.Parser
import Preflight.Text.Quoted

/-!
# Decoding documents

A `Decoder` reads a value of some type off a document. It walks the document from
the front and stops at the first error.

A record is described by a `RecordForm`: its *slots* in the order of its fields.
A record is written either as an object, whose members may come in any order and
may be joined by members nobody asked for, or as an array of the fields in order.
Both fill the same slots of a draft, which `finish` then completes: the field of
a slot that stayed empty has a default or is missing.

A choice between names is written as a string, or as an object with that name
for its only member and `null` for its value.
-/

namespace Preflight

/-- A reader of values of one type. -/
abbrev Decoder (α : Type) := Doc → Except DecodeError α

namespace DecodeError

/-- A value of another type than the one expected. -/
def wrongType (found expected : String) (spot : Spot) : DecodeError :=
  ⟨.wrongType found expected, spot⟩

end DecodeError

namespace JsonNumber

/-- A number as an error describes it. -/
def described : JsonNumber → String
  | fraction x => "floating point " ++ DecodeCause.ticked (form.write x)
  | n => "integer " ++ DecodeCause.ticked n.text

end JsonNumber

namespace Doc

/-- The error where a value is not of the expected type: its own fault, if it has one. -/
def mistyped (expected : String) : Doc → DecodeError
  | null _ stop => .wrongType "null" expected stop
  | bool true _ stop => .wrongType "boolean `true`" expected stop
  | bool false _ stop => .wrongType "boolean `false`" expected stop
  | number (.error e) _ _ => e
  | number (.ok n) _ stop => .wrongType n.described expected stop
  | string (.error e) _ _ => e
  | string (.ok s) _ stop => .wrongType ("string " ++ Text.quoted s) expected stop
  | array _ start => .wrongType "sequence" expected start
  | object _ start => .wrongType "map" expected start
  | broken _ flaw _ => flaw.reading

end Doc

namespace Decoder

/-! ## Simple values -/

/-- A string of a form that `read` knows; `expected` describes it. -/
def ofString {α : Type} (expected : String) (read : String → Except DecodeCause α) : Decoder α
  | .string (.error e) _ _ => .error e
  | .string (.ok s) _ stop =>
      match read s with
      | .ok x => .ok x
      | .error cause => .error ⟨cause, stop⟩
  | doc => .error (doc.mistyped expected)

/-- Any string. -/
def string : Decoder String :=
  ofString "a string" .ok

/-- A truth value. -/
def bool : Decoder Bool
  | .bool b _ _ => .ok b
  | doc => .error (doc.mistyped "a boolean")

/-- A natural number of 64 bits. -/
def word : Decoder Nat
  | .number (.ok (.natural n)) _ _ => .ok n
  | .number (.ok (.negative n)) _ stop =>
      .error ⟨.wrongValue (JsonNumber.negative n).described "u64", stop⟩
  | doc => .error (doc.mistyped "u64")

/-- Nothing, written `null`. -/
def unit : Decoder Unit
  | .null _ _ => .ok ()
  | doc => .error (doc.mistyped "unit")

/-- A value, or `null` for none. -/
def optional {α : Type} (decode : Decoder α) : Decoder (Option α)
  | .null _ _ => .ok none
  | .broken .nullWord flaw _ => .error flaw.reading
  | doc => (decode doc).map some

/-- The items of an array, one after the other. -/
def items {α : Type} (decode : Decoder α) : Items → Except DecodeError (List α)
  | .closed _ => .ok []
  | .broken flaw _ => .error flaw.reading
  | .item value rest =>
      match decode value with
      | .error e => .error e
      | .ok x => (items decode rest).map (x :: ·)

/-- An array of values of one type. -/
def list {α : Type} (decode : Decoder α) : Decoder (List α)
  | .array xs _ => items decode xs
  | doc => .error (doc.mistyped "a sequence")

/-! ## Choices -/

/-- The choice with a name, or the error behind the name. -/
def choose {α : Type} (known : List (String × α)) (name : String) (stop : Spot) :
    Except DecodeError α :=
  match known.lookup name with
  | some x => .ok x
  | none => .error ⟨.unknownVariant name (known.map (·.1)), stop⟩

/-- What may follow the only member of an object that names a choice. -/
def onlyMember (after : Spot) : Members → Except DecodeError Unit
  | .closed _ => .ok ()
  | .broken flaw =>
      if flaw.reading.cause = .text .endInObject then .error (.fault .endInObject after)
      else .error (.fault .valueExpected after)
  | _ => .error (.fault .valueExpected after)

/-- A choice written as an object. -/
def chooseByMember {α : Type} (known : List (String × α)) :
    Members → Except DecodeError α
  | .closed stop => .error (.fault .valueExpected stop)
  | .broken flaw => .error flaw.reading
  | .keyless found _ => .error (found.mistyped "variant identifier")
  | .member key value after rest => do
      let name ← key.name
      let x ← choose known name key.stop
      unit value
      onlyMember after rest
      return x

/-- Does an object have exactly one member? -/
def isSingle : Members → Bool
  | .member _ _ _ (.closed _) => true
  | _ => false

/-- A choice between names. -/
def choice {α : Type} (known : List (String × α)) : Decoder α
  | .string (.error e) _ _ => .error e
  | .string (.ok s) _ stop => choose known s stop
  | .object members (some _) => chooseByMember known members
  | .object members none =>
      if isSingle members then chooseByMember known members
      else .error ⟨.wrongValue "map" "map with a single key", none⟩
  | .broken .quote flaw _ => .error flaw.reading
  | .broken .nothing flaw _ => .error flaw.reading
  | doc =>
      match doc.start with
      | none => .error (doc.mistyped "string or map")
      | start => .error (.fault .valueExpected start.peek)

end Decoder

/-! ## Records -/

/-- One field of a record that is being read into a draft `σ`. -/
structure Slot (σ : Type) where
  name : String
  /-- Has the field been read? -/
  filled : σ → Bool
  /-- May an array that lists the fields leave this one out? -/
  omissible : Bool := false
  /-- Read the field. -/
  fill : σ → Decoder σ

/-- How a record of type `α` is read by way of a draft `σ`. -/
structure RecordForm (σ α : Type) where
  title : String
  slots : List (Slot σ)
  blank : σ
  /-- The record of a draft, or the name of a field that is missing. -/
  finish : σ → Except String α

namespace RecordForm

variable {σ α : Type}

/-- The record as an error describes it. -/
def described (form : RecordForm σ α) : String := "struct " ++ form.title

/-- The record as an error describes it whose array is too short. -/
def describedSize (form : RecordForm σ α) : String :=
  let count := form.slots.length
  form.described ++ " with " ++ Text.decimal count ++
    (if count = 1 then " element" else " elements")

/-- The number of items. -/
def itemCount : Items → Nat
  | .item _ rest => itemCount rest + 1
  | _ => 0

/-- Read the fields off an array; `index` fields have been passed. -/
def fillItems (short : String) : List (Slot σ) → Nat → σ → Items → Except DecodeError (σ × Spot)
  | [], _, draft, .closed stop => .ok (draft, stop)
  | [], _, _, .broken _ ending => .error ending
  | [], index, _, .item value rest =>
      match value.start with
      | none => .error ⟨.wrongLength (index + itemCount rest + 1) "fewer elements in array", none⟩
      | start => .error (.fault .trailingCharacters start.peek)
  | slot :: slots, index, draft, .item value rest =>
      match slot.fill draft value with
      | .error e => .error e
      | .ok draft => fillItems short slots (index + 1) draft rest
  | slot :: slots, index, draft, .closed stop =>
      if slot.omissible then fillItems short slots (index + 1) draft (.closed stop)
      else .error ⟨.wrongLength index short, stop⟩
  | _ :: _, _, _, .broken flaw _ => .error flaw.reading

/-- Read the fields off the members of an object, passing over members with other names. -/
def fillMembers (slots : List (Slot σ)) : σ → Members → Except DecodeError (σ × Spot)
  | draft, .closed stop => .ok (draft, stop)
  | _, .broken flaw => .error flaw.reading
  | _, .keyless _ flaw => .error flaw.reading
  | draft, .member key value _ rest =>
      match key.name with
      | .error e => .error e
      | .ok name =>
          match slots.find? fun slot => slot.name = name with
          | none =>
              match value.skip with
              | .error e => .error e
              | .ok () => fillMembers slots draft rest
          | some slot =>
              if slot.filled draft then .error ⟨.duplicateField name, key.beyond⟩
              else
                match slot.fill draft value with
                | .error e => .error e
                | .ok draft => fillMembers slots draft rest

/-- The record of a draft; a missing field shows behind the document. -/
def complete (form : RecordForm σ α) : σ × Spot → Except DecodeError α
  | (draft, stop) =>
      match form.finish draft with
      | .ok record => .ok record
      | .error name => .error ⟨.missingField name, stop⟩

/-- Read a record. -/
def decode (form : RecordForm σ α) : Decoder α
  | .array items _ =>
      (fillItems form.describedSize form.slots 0 form.blank items).bind form.complete
  | .object members _ => (fillMembers form.slots form.blank members).bind form.complete
  | doc => .error (doc.mistyped form.described)

end RecordForm

/-- Decode a text that holds one document and nothing behind it. -/
def Decoder.decodeText {α : Type} (decode : Decoder α) (text : String) : Except DecodeError α :=
  let page := Page.parse text
  match decode page.root with
  | .error e => .error e
  | .ok x =>
      match page.surplus with
      | none => .ok x
      | some place => .error (.fault .trailingCharacters (some place))

end Preflight
