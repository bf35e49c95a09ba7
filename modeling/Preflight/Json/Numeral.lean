import Preflight.Json.Document

/-!
# Reading numbers

A numeral is read in two steps: `scan?` takes it apart by the grammar, and
`Numeral.value?` gives it a value.

Whole numerals keep their exact value while they fit 64 bits. Everything else is
a binary fraction, made from a significand of at most 64 bits and a power of
ten. Digits that no longer fit the significand count as zeros before the point
and are dropped behind it. The power is applied to the rounded significand by
one rounded multiplication or division, or by several divisions where it lies
below `10 ^ -308`; so the result is near the decimal value but need not be the
number nearest to it.
-/

namespace Preflight

/-- The parts of a numeral. -/
structure Numeral where
  negative : Bool
  whole : List Char
  /-- The digits behind the point, if there is one. -/
  fraction : Option (List Char)
  /-- Whether the exponent is negative, and its digits, if there is one. -/
  exponent : Option (Bool × List Char)
  deriving Repr

namespace Numeral

/-! ## The grammar -/

/-- A numeral taken off the front of a text: its parts, its length and what follows it. -/
structure Scan where
  parts : Numeral
  length : Nat
  rest : List Char

/-- A fault at a distance from the beginning of the numeral. `peeked` faults show at the
character looked at, the others behind the last one taken. -/
structure ScanFault where
  reading : TextFault
  skipping : TextFault
  distance : Nat
  peeked : Bool

/-- The fault of a missing digit that has been looked for, but not taken. -/
def missingPeeked (distance : Nat) : List Char → ScanFault
  | [] => ⟨.endInValue, .badNumber, distance, true⟩
  | _ => ⟨.badNumber, .badNumber, distance, true⟩

/-- The fault of something else than a digit that has been taken in its place. -/
def missingTaken (distance : Nat) : List Char → ScanFault
  | [] => ⟨.endInValue, .badNumber, distance, false⟩
  | _ => ⟨.badNumber, .badNumber, distance, true⟩

/-- The digits before the point; one with a zero in front is the zero alone. -/
def scanWhole (distance : Nat) : List Char → Except ScanFault (List Char × List Char)
  | '0' :: rest =>
      match rest with
      | c :: _ =>
          if Text.isDecimalDigit c then .error ⟨.badNumber, .badNumber, distance + 1, true⟩
          else .ok (['0'], rest)
      | [] => .ok (['0'], rest)
  | rest =>
      let digits := rest.takeWhile Text.isDecimalDigit
      if digits.isEmpty then .error (missingTaken distance rest)
      else .ok (digits, rest.dropWhile Text.isDecimalDigit)

/-- The point and the digits behind it. -/
def scanFraction (distance : Nat) : List Char → Except ScanFault (Option (List Char) × List Char)
  | '.' :: rest =>
      let digits := rest.takeWhile Text.isDecimalDigit
      if digits.isEmpty then .error (missingPeeked (distance + 1) rest)
      else .ok (some digits, rest.dropWhile Text.isDecimalDigit)
  | rest => .ok (none, rest)

/-- The sign of an exponent: whether it is negative, and its length. -/
def scanSign : List Char → Bool × Nat × List Char
  | '+' :: rest => (false, 1, rest)
  | '-' :: rest => (true, 1, rest)
  | rest => (false, 0, rest)

/-- Does a character begin an exponent? -/
def isExponentMark (c : Char) : Bool := c = 'e' || c = 'E'

/-- The exponent. -/
def scanExponent (distance : Nat) :
    List Char → Except ScanFault (Option (Bool × List Char) × Nat × List Char)
  | [] => .ok (none, 0, [])
  | c :: rest =>
      if isExponentMark c then
        let (negative, signLength, rest) := scanSign rest
        let digits := rest.takeWhile Text.isDecimalDigit
        if digits.isEmpty then .error (missingTaken (distance + 1 + signLength) rest)
        else
          .ok (some (negative, digits), 1 + signLength + digits.length,
            rest.dropWhile Text.isDecimalDigit)
      else .ok (none, 0, c :: rest)

/-- The sign of a numeral and what follows it. -/
def scanMinus : List Char → Bool × Nat × List Char
  | '-' :: rest => (true, 1, rest)
  | rest => (false, 0, rest)

/-- Take a numeral off the front of a text. -/
def scan? (cs : List Char) : Except ScanFault Scan := do
  let (negative, signLength, rest) := scanMinus cs
  let (whole, rest) ← scanWhole signLength rest
  let taken := signLength + whole.length
  let (fraction, rest) ← scanFraction taken rest
  let taken := taken + (match fraction with | none => 0 | some digits => digits.length + 1)
  let (exponent, length, rest) ← scanExponent taken rest
  return ⟨⟨negative, whole, fraction, exponent⟩, taken + length, rest⟩

/-! ## The value -/

/-- The bound of 64-bit natural numbers. -/
def wordBound : Nat := 0x10000000000000000

/-- A significand of at most 64 bits with a power of ten. -/
structure Scaled where
  significand : Nat
  power : Int
  /-- Has a digit been met that did not fit? -/
  full : Bool

/-- One more digit before the point. -/
def Scaled.wholeDigit (s : Scaled) (c : Char) : Scaled :=
  let next := s.significand * 10 + Text.digitValue c
  if s.full || wordBound ≤ next then { s with power := s.power + 1, full := true }
  else { s with significand := next }

/-- One more digit behind the point. -/
def Scaled.fractionDigit (s : Scaled) (c : Char) : Scaled :=
  let next := s.significand * 10 + Text.digitValue c
  if s.full || wordBound ≤ next then { s with full := true }
  else { s with significand := next, power := s.power - 1 }

/-- The significand of the digits before the point. -/
def wholePart (digits : List Char) : Scaled :=
  digits.foldl Scaled.wholeDigit ⟨0, 0, false⟩

/-- The significand of all digits. -/
def mantissa (n : Numeral) : Scaled :=
  match n.fraction with
  | none => wholePart n.whole
  | some digits => digits.foldl Scaled.fractionDigit { wholePart n.whole with full := false }

/-- The binary number nearest to a power of ten. -/
def powerOfTen (k : Nat) : Binary64 :=
  (Binary64.ofNat? (Nat.pow 10 k)).getD (.zero false)

/-- The greatest power of ten that is applied in one step. -/
def stepPower : Nat := 308

/-- Divide by the greatest power of one step a number of times; zero stays what it is. -/
def divideSteps : Nat → Binary64 → Option Binary64
  | 0, x => some x
  | steps + 1, x =>
      if x.isZero then some x else (x.div? (powerOfTen stepPower)).bind (divideSteps steps)

/-- Divide by a power of ten, in several steps if it is great. -/
def divideByPower (x : Binary64) (k : Nat) : Option Binary64 :=
  let steps := (k - 1) / stepPower
  (divideSteps steps x).bind fun y => y.div? (powerOfTen (k - stepPower * steps))

/-- Apply a power of ten; `none` if the result is too large. -/
def applyPower (x : Binary64) (power : Int) : Option Binary64 :=
  if power < 0 then divideByPower x power.natAbs
  else if power.natAbs ≤ stepPower then x.mul? (powerOfTen power.natAbs)
  else if x.isZero then some x
  else none

/-- The greatest exponent that is counted. -/
def exponentBound : Nat := 0x80000000

/-- The number of digits at the end of an exponent that no longer matter, because the digits
before them have passed the bound already; `none` if the exponent stays below it. -/
def exponentExcess : Nat → List Char → Option Nat
  | _, [] => none
  | value, c :: rest =>
      let next := value * 10 + Text.digitValue c
      if exponentBound ≤ next then some rest.length else exponentExcess next rest

/-- The binary fraction a numeral stands for. An error tells how many of its last characters lie
behind the place where it was found to be out of range. -/
def fraction? (n : Numeral) : Except Nat Binary64 :=
  let m := n.mantissa
  let signed (x : Option Binary64) : Except Nat Binary64 :=
    match x with
    | none => .error 0
    | some x => .ok { x with negative := n.negative }
  let scaled (power : Int) := signed ((Binary64.ofNat? m.significand).bind (applyPower · power))
  match n.exponent with
  | none => scaled m.power
  | some (negative, digits) =>
      match exponentExcess 0 digits with
      | some left =>
          if m.significand ≠ 0 && !negative then .error left else .ok (.zero n.negative)
      | none =>
          let e : Int := Text.natOfDigits digits
          scaled (if negative then m.power - e else m.power + e)

/-- The value of a numeral, as `fraction?` where it is no integer of 64 bits. -/
def value? (n : Numeral) : Except Nat JsonNumber :=
  let w := wholePart n.whole
  if n.fraction.isSome || n.exponent.isSome || w.full then n.fraction?.map .fraction
  else if !n.negative then .ok (.natural w.significand)
  else if 0 < w.significand && w.significand ≤ 0x8000000000000000 then .ok (.negative w.significand)
  else n.fraction?.map .fraction

end Numeral

end Preflight
