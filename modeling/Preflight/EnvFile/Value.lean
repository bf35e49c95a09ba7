import Preflight.Text.Alphanumeric
import Preflight.Text.Blank

/-!
# Values in a file of variables

A value is written as one word. Between single quotes every character stands for
itself. Elsewhere a backslash escapes a quote, a dollar sign, a blank or a
backslash and writes a line break as a letter, and a dollar sign puts in the
value of a variable: the letters and digits behind it are its name, or all that
stands between braces. Behind the word only blanks and a comment may follow.

A name without braces ends at the first character that is none of its own, and
that character is taken as it is, whatever it would mean elsewhere.
-/

namespace Preflight.EnvFile

/-- A look-up of variables by name. -/
abbrev Lookup := String → Option String

/-- Where in a value the reader is. -/
inductive ValuePlace where
  | word
  /-- Behind a backslash. -/
  | escape
  /-- Between single quotes. -/
  | literal
  /-- In a name, of which this was read so far. -/
  | name (read : List Char)
  /-- In a name between braces. -/
  | braced (read : List Char)
  /-- Behind the word. -/
  | behind
  deriving DecidableEq, Repr

/-- The value of a variable; one that is not set has none. -/
def valueOf (lookup : Lookup) (name : List Char) : List Char :=
  ((lookup (String.ofList name)).getD "").toList

/-- The character that a backslash and this one stand for. -/
def escaped? (c : Char) : Option Char :=
  if c = 'n' then some '\n'
  else if c ∈ ['\\', '\'', '"', '$', ' '] then some c
  else none

/-- A value from some place on; `quoted` tells whether double quotes are open. -/
def readValue (lookup : Lookup) (quoted : Bool) : ValuePlace → List Char → Option (List Char)
  | .word, [] => if quoted then none else some []
  | .escape, [] => if quoted then none else some []
  | .literal, [] => none
  | .name read, [] => if quoted then none else some (valueOf lookup read)
  | .braced _, [] => none
  | .behind, [] => some []
  | .behind, c :: rest =>
      if c = ' ' || c = '\t' then readValue lookup quoted .behind rest
      else if c = '#' then some []
      else none
  | .escape, c :: rest =>
      (escaped? c).bind fun meant => (readValue lookup quoted .word rest).map (meant :: ·)
  | .literal, c :: rest =>
      if c = '\'' then readValue lookup quoted .word rest
      else (readValue lookup quoted .literal rest).map (c :: ·)
  | .name read, c :: rest =>
      if Text.isAlphanumeric c then readValue lookup quoted (.name (read ++ [c])) rest
      else if c = '\x7b' ∧ read = [] then readValue lookup quoted (.braced []) rest
      else if c = '$' then
        (readValue lookup quoted (.name []) rest).map (valueOf lookup read ++ ·)
      else (readValue lookup quoted .word rest).map (valueOf lookup read ++ c :: ·)
  | .braced read, c :: rest =>
      if c = '\x7d' then (readValue lookup quoted .word rest).map (valueOf lookup read ++ ·)
      else readValue lookup quoted (.braced (read ++ [c])) rest
  | .word, c :: rest =>
      if c = '$' then readValue lookup quoted (.name []) rest
      else if c = '\\' then readValue lookup quoted .escape rest
      else if c = '"' then readValue lookup (!quoted) .word rest
      else if quoted then (readValue lookup quoted .word rest).map (c :: ·)
      else if c = '\'' then readValue lookup quoted .literal rest
      else if c = ' ' || c = '\t' then readValue lookup quoted .behind rest
      else (readValue lookup quoted .word rest).map (c :: ·)

/-- The value that a text stands for, if it stands for one. -/
def value? (lookup : Lookup) (cs : List Char) : Option String :=
  (readValue lookup false .word cs).map String.ofList

end Preflight.EnvFile
