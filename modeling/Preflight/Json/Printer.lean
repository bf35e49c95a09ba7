import Preflight.Json.Basic

/-!
# Writing JSON

Two forms are written. The *compact* form has no white space; the *pretty* form
puts every item and member on a line of its own, two spaces deeper than the
bracket around it, and writes an empty array or object as its bracket pair.
Both agree on names, numbers and strings: a string escapes the quote, the
backslash and the controls below the space, and nothing else.
-/

namespace Preflight

namespace Json

/-- The form of one character inside a string. -/
def escapeChar (c : Char) : List Char :=
  if c = '"' then ['\\', '"']
  else if c = '\\' then ['\\', '\\']
  else if c = '\u0008' then ['\\', 'b']
  else if c = '\u000C' then ['\\', 'f']
  else if c = '\n' then ['\\', 'n']
  else if c = '\r' then ['\\', 'r']
  else if c = '\t' then ['\\', 't']
  else if c.toNat < 32 then
    ['\\', 'u', '0', '0', Text.digitChar (c.toNat / 16), Text.digitChar (c.toNat % 16)]
  else [c]

/-- A string with its quotes. -/
def stringChars (s : String) : List Char :=
  '"' :: s.toList.flatMap escapeChar ++ ['"']

/-- A value without substructure. -/
def boolChars : Bool → List Char
  | true => "true".toList
  | false => "false".toList

mutual

/-- The compact form of a value. -/
def compactChars : Json → List Char
  | null => "null".toList
  | bool b => boolChars b
  | number n => n.text.toList
  | string s => stringChars s
  | array items => '[' :: compactItems items ++ [']']
  | object members => '\x7b' :: compactMembers members ++ ['\x7d']

/-- The compact form of the items of an array. -/
def compactItems : List Json → List Char
  | [] => []
  | [item] => compactChars item
  | item :: rest => compactChars item ++ ',' :: compactItems rest

/-- The compact form of the members of an object. -/
def compactMembers : List (String × Json) → List Char
  | [] => []
  | [(name, value)] => stringChars name ++ ':' :: compactChars value
  | (name, value) :: rest => stringChars name ++ ':' :: compactChars value ++ ',' :: compactMembers rest

end

/-- A line break and the spaces of a depth. -/
def newLine (depth : Nat) : List Char :=
  '\n' :: List.replicate (2 * depth) ' '

mutual

/-- The pretty form of a value that stands at a depth. -/
def prettyChars (depth : Nat) : Json → List Char
  | null => "null".toList
  | bool b => boolChars b
  | number n => n.text.toList
  | string s => stringChars s
  | array [] => ['[', ']']
  | array (item :: rest) =>
      '[' :: newLine (depth + 1) ++ prettyItems depth (item :: rest) ++ newLine depth ++ [']']
  | object [] => ['\x7b', '\x7d']
  | object (member :: rest) =>
      '\x7b' :: newLine (depth + 1) ++ prettyMembers depth (member :: rest) ++ newLine depth ++
        ['\x7d']

/-- The pretty form of the items of an array that stands at a depth. -/
def prettyItems (depth : Nat) : List Json → List Char
  | [] => []
  | [item] => prettyChars (depth + 1) item
  | item :: rest =>
      prettyChars (depth + 1) item ++ ',' :: newLine (depth + 1) ++ prettyItems depth rest

/-- The pretty form of the members of an object that stands at a depth. -/
def prettyMembers (depth : Nat) : List (String × Json) → List Char
  | [] => []
  | [(name, value)] => stringChars name ++ ':' :: ' ' :: prettyChars (depth + 1) value
  | (name, value) :: rest =>
      stringChars name ++ ':' :: ' ' :: prettyChars (depth + 1) value ++ ',' :: newLine (depth + 1) ++
        prettyMembers depth rest

end

/-- Write a value without white space. -/
def compact (value : Json) : String :=
  String.ofList (compactChars value)

/-- Write a value over several lines. -/
def pretty (value : Json) : String :=
  String.ofList (prettyChars 0 value)

end Json

end Preflight
