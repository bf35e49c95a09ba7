import Preflight.Text.Decimal
import Preflight.Text.Printable

/-!
# Quoted text

The diagnostic form of a text: between double quotes, with a backslash before a
quote or a backslash, short escapes for the common controls, and the code point
in hexadecimal between braces for every other character that would not print as
itself. A single quote stands for itself.

Diagnostic texts that quote a server's message are made with `quoted`; a secret
inside such a message is therefore looked for in its *escaped* surroundings.
-/

namespace Preflight.Text

/-- The form of one character inside a quoted text. -/
def escapeChar (c : Char) : List Char :=
  if c = '\u0000' then ['\\', '0']
  else if c = '\t' then ['\\', 't']
  else if c = '\r' then ['\\', 'r']
  else if c = '\n' then ['\\', 'n']
  else if c = '\\' then ['\\', '\\']
  else if c = '"' then ['\\', '"']
  else if isPrintable c then [c]
  else ['\\', 'u', '\x7b'] ++ hexDigits c.toNat ++ ['\x7d']

/-- The characters of a text in their quoted form. -/
def escapeChars (cs : List Char) : List Char :=
  cs.flatMap escapeChar

/-- A text between double quotes, every character in its quoted form. -/
def quoted (s : String) : String :=
  String.ofList ('"' :: escapeChars s.toList ++ ['"'])

/-- The diagnostic form of an optional text. -/
def quotedOption : Option String → String
  | none => "None"
  | some s => "Some(" ++ quoted s ++ ")"

end Preflight.Text
