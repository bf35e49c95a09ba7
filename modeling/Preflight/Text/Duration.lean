import Preflight.Text.Decimal

/-!
# Spans of time as text

A span of time is a number of microseconds. Its diagnostic form uses the largest
unit of which it holds at least one, with as many decimal places as it takes to
be exact: `1.5s`, `250µs`, `1.001ms`. The empty span is `0ns`.
-/

namespace Preflight.Text

/-- Drop the zeros at the end of a run of digits. -/
def dropTrailingZeros (digits : List Char) : List Char :=
  (digits.reverse.dropWhile (· = '0')).reverse

/-- A number of whole units and a rest written to `places` decimal places, without idle zeros. -/
def unitText (whole rest places : Nat) (unit : String) : String :=
  let fraction := dropTrailingZeros (paddedDigits places rest)
  let point := if rest = 0 then [] else '.' :: fraction
  decimal whole ++ String.ofList point ++ unit

/-- The diagnostic form of a span of `micros` microseconds. -/
def durationText (micros : Nat) : String :=
  if 1000000 ≤ micros then unitText (micros / 1000000) (micros % 1000000) 6 "s"
  else if 1000 ≤ micros then unitText (micros / 1000) (micros % 1000) 3 "ms"
  else if 0 < micros then decimal micros ++ "µs"
  else "0ns"

end Preflight.Text
