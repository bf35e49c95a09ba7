/-!
# Lower case, as far as ASCII fragments can tell

A message is classified by looking for fragments written in lower-case ASCII
letters, after the message itself has been put into lower case. Only what ends
up as an ASCII character can take part in a find. Besides the ASCII capitals
there are two characters whose lower-case form holds an ASCII letter: the
Kelvin sign, which becomes `k`, and the capital `I` with a dot, which becomes
`i` and a combining dot. Every other character keeps out of every find whether
it is mapped or not, so it is left as it is.

## Main results

* `fold_of_isUpper` — ASCII capitals become their small letters.
-/

namespace Preflight.Text

/-- The lower-case form of one character, as far as ASCII letters are concerned. -/
def foldChar (c : Char) : List Char :=
  if c = '\u212A' then ['k']
  else if c = '\u0130' then ['i', '\u0307']
  else [c.toLower]

/-- The lower-case form of a text, as far as ASCII letters are concerned. -/
def foldCase (cs : List Char) : List Char :=
  cs.flatMap foldChar

/-- Put the ASCII capitals of a text into lower case and keep all else. -/
def asciiLower (cs : List Char) : List Char :=
  cs.map Char.toLower

/-- An ASCII capital becomes its small letter. -/
theorem fold_of_isUpper {c : Char} (h : c.isUpper = true) : foldChar c = [c.toLower] := by
  have h1 : c ≠ '\u212A' := by rintro rfl; exact absurd h (by decide)
  have h2 : c ≠ '\u0130' := by rintro rfl; exact absurd h (by decide)
  simp [foldChar, h1, h2]

end Preflight.Text
