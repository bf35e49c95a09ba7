import Preflight.Number.Shortest

/-!
# JSON values

A JSON value as a tree. Numbers keep the class their text has: a natural number
that fits 64 bits, a negative integer that does, or a binary fraction for all
else. Members of an object keep their order, and a name may occur twice; what a
repeated name means is for the reader of the value to say.

A program that builds a value before it writes it may keep the objects in it as
maps. What is written then is the value `sorted`: every name once, in the order of
the names.
-/

namespace Preflight

/-- A number of a JSON document. -/
inductive JsonNumber where
  | natural (value : Nat)
  /-- The negative of a positive number. -/
  | negative (magnitude : Nat)
  | fraction (value : Binary64)
  deriving DecidableEq, Repr, Inhabited

namespace JsonNumber

/-- Fractions stand in place from `0.00001` to below `10 ^ 16`; an exponent has its sign. -/
def form : FloatForm := ⟨-5, 15, true⟩

/-- Write a number. -/
def text : JsonNumber → String
  | natural n => Text.decimal n
  | negative n => "-" ++ Text.decimal n
  | fraction x => form.write x

end JsonNumber

/-- A JSON value. -/
inductive Json where
  | null
  | bool (value : Bool)
  | number (value : JsonNumber)
  | string (value : String)
  | array (items : List Json)
  | object (members : List (String × Json))
  deriving Inhabited

namespace Json

/-- The JSON number of a natural number. -/
def ofNat (n : Nat) : Json := number (.natural n)

/-- The JSON number of an integer. -/
def ofInt (n : Int) : Json :=
  if n < 0 then number (.negative n.natAbs) else number (.natural n.natAbs)

/-- An optional text, `null` where there is none. -/
def ofOption : Option String → Json
  | none => null
  | some s => string s

/-- The last value that an object has under a name. -/
def get? (name : String) : Json → Option Json
  | object members => (members.reverse.find? fun member => member.1 = name).map (·.2)
  | _ => none

/-! ## Objects as maps -/

/-- Does a name stand before another one, by the numbers of their characters? -/
def isBefore (name other : String) : Bool :=
  name.toList.lex other.toList fun a b => a.toNat < b.toNat

/-- Put a member among others that stand in order. A name that is there keeps its value. -/
def insertMember (name : String) (value : Json) : List (String × Json) → List (String × Json)
  | [] => [(name, value)]
  | member :: rest =>
      if name = member.1 then member :: rest
      else if isBefore name member.1 then (name, value) :: member :: rest
      else member :: insertMember name value rest

mutual

/-- A value whose objects are maps: a name has the last of its values, and the members stand in the
order of their names. -/
def sorted : Json → Json
  | array items => array (sortedItems items)
  | object members => object (sortedMembers members)
  | value => value

/-- The items of an array, each one sorted. -/
def sortedItems : List Json → List Json
  | [] => []
  | item :: rest => sorted item :: sortedItems rest

/-- The members of an object as a map keeps them. -/
def sortedMembers : List (String × Json) → List (String × Json)
  | [] => []
  | (name, value) :: rest => insertMember name (sorted value) (sortedMembers rest)

end

end Json

end Preflight
