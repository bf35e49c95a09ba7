import Preflight.Text.Decimal
import Preflight.Text.Search

/-!
# Workflow identifiers

A UUID is 128 bits. It is written as 32 lower-case hexadecimal digits in groups
of 8, 4, 4, 4 and 12, with hyphens between the groups. It is read in four forms,
digits in either case: the 32 digits alone, the groups with hyphens, the same
between braces, and the same behind `urn:uuid:`.

When a text is none of these, the error names the first thing that is wrong with
it, looking first for a foreign character, then at the number of groups, then at
their lengths.
-/

namespace Preflight

/-- A 128-bit identifier. -/
structure Uuid where
  bits : BitVec 128
  deriving DecidableEq, Repr, Inhabited

/-- Why a text is no identifier. -/
inductive UuidFault where
  /-- A character that is neither a digit nor a hyphen, `index` bytes from the beginning. -/
  | character (found : Char) (index : Nat)
  /-- Digits alone, but not 32 of them. -/
  | length (found : Nat)
  | groupCount (found : Nat)
  | groupLength (group expected found : Nat)
  deriving DecidableEq, Repr

/-- The sentence for readers. -/
def UuidFault.message : UuidFault → String
  | character found index =>
      "invalid character: found `" ++ String.ofList [found] ++ "` at " ++ Text.decimal index
  | length found => "invalid length: found " ++ Text.decimal found
  | groupCount found => "invalid group count: expected 5, found " ++ Text.decimal found
  | groupLength group expected found =>
      "invalid group length in group " ++ Text.decimal group ++ ": expected " ++
        Text.decimal expected ++ ", found " ++ Text.decimal found

namespace Uuid

/-- The lengths of the groups of digits. -/
def groupLengths : List Nat := [8, 4, 4, 4, 12]

/-- The lowest `width` hexadecimal digits of a number. -/
def hexFixed : Nat → Nat → List Char
  | 0, _ => []
  | width + 1, n => hexFixed width (n / 16) ++ [Text.digitChar (n % 16)]

/-- Cut a list into pieces of given lengths. -/
def pieces : List Nat → List Char → List (List Char)
  | [], _ => []
  | n :: lengths, cs => cs.take n :: pieces lengths (cs.drop n)

/-- Write the pieces of a text with hyphens between them. -/
def hyphenated : List (List Char) → List Char
  | [] => []
  | [last] => last
  | first :: rest => first ++ '-' :: hyphenated rest

/-- The characters of the written form. -/
def chars (id : Uuid) : List Char :=
  hyphenated (pieces groupLengths (hexFixed 32 id.bits.toNat))

/-- Write an identifier. -/
def text (id : Uuid) : String := String.ofList id.chars

/-- The identifier whose bits a run of hexadecimal digits gives. -/
def ofHex? (digits : List Char) : Option Uuid :=
  if digits.length = 32 then
    (digits.mapM Text.hexValue?).map fun values =>
      ⟨BitVec.ofNat 128 (values.foldl (fun n d => n * 16 + d) 0)⟩
  else none

/-- The identifier in groups of digits with hyphens between them. -/
def ofGroups? (cs : List Char) : Option Uuid :=
  let groups := Text.splitAtChar '-' cs
  if groups.map List.length = groupLengths then ofHex? groups.flatten else none

/-- The lead of an identifier in the form of a resource name. -/
def resourceLead : List Char := "urn:uuid:".toList

/-- What stands behind a lead that is written in any case. -/
def behindLead? (lead cs : List Char) : Option (List Char) :=
  if (cs.take lead.length).map Char.toLower = lead then some (cs.drop lead.length) else none

/-- What stands between braces. -/
def betweenBraces? : List Char → Option (List Char)
  | '\x7b' :: rest =>
      match rest.reverse with
      | '\x7d' :: inner => some inner.reverse
      | _ => none
  | _ => none

/-- The part of a text that holds the groups, and the number of bytes before it; `none` if it is
the whole text. -/
def unwrapped (cs : List Char) : Option (List Char × Nat) :=
  match betweenBraces? cs with
  | some inner => some (inner, 1)
  | none => (behindLead? resourceLead cs).map fun inner => (inner, resourceLead.length)

/-- The first character that is neither a hexadecimal digit nor a hyphen, and its offset. -/
def foreign? : Nat → List Char → Option (Char × Nat)
  | _, [] => none
  | index, c :: rest =>
      if c = '-' || (Text.hexValue? c).isSome then foreign? (index + c.utf8Size) rest
      else some (c, index)

/-- The first of the leading groups whose length is wrong. -/
def firstBadGroup : Nat → List Nat → List (List Char) → Option UuidFault
  | index, expected :: lengths, group :: groups =>
      if group.length ≠ expected then some (.groupLength index expected group.length)
      else firstBadGroup (index + 1) lengths groups
  | _, _, _ => none

/-- What is wrong with a text that is no identifier. -/
def faultOf (cs : List Char) : UuidFault :=
  let (inner, offset) := (unwrapped cs).getD (cs, 0)
  match foreign? 0 inner with
  | some (c, index) => .character c (offset + index)
  | none =>
      let groups := Text.splitAtChar '-' inner
      if groups.length = 1 && (unwrapped cs).isNone then .length cs.length
      else if groups.length ≠ groupLengths.length then .groupCount groups.length
      else
        (firstBadGroup 0 (groupLengths.take 4) groups).getD
          (.groupLength 4 12 (cs.length - 24))

/-- Read an identifier. -/
def parse (s : String) : Except UuidFault Uuid :=
  let cs := s.toList
  let found := match unwrapped cs with
    | some (inner, _) => ofGroups? inner
    | none => (ofHex? cs).or (ofGroups? cs)
  match found with
  | some id => .ok id
  | none => .error (faultOf cs)

end Uuid

end Preflight
