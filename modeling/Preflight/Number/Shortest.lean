import Preflight.Number.Binary64
import Preflight.Text.Decimal

/-!
# The fewest digits that read back

A binary number is written with the fewest decimal digits that still lie nearer
to it than to any of its neighbours; of two candidates with that many digits the
nearer one is taken. For each count of digits only the two points of that
decimal grid on either side of the number can qualify, so each count is one
comparison in exact arithmetic.

`FloatForm` holds the decisions of the notation around those digits: from which
exponent to which a number is written in place, and how an exponent is written.
-/

namespace Preflight

/-- A decimal number: `digits * 10 ^ exponent`. -/
structure DecimalPoint where
  digits : Nat
  exponent : Int
  deriving DecidableEq, Repr

namespace DecimalPoint

/-- Move zeros at the end of the digits into the exponent, at most `fuel` of them. -/
def normalized : Nat → DecimalPoint → DecimalPoint
  | 0, p => p
  | fuel + 1, p =>
      if p.digits ≠ 0 ∧ p.digits % 10 = 0 then normalized fuel ⟨p.digits / 10, p.exponent + 1⟩
      else p

/-- The number as a ratio. -/
def ratio (p : DecimalPoint) : Nat × Nat :=
  if 0 ≤ p.exponent then (p.digits * Nat.pow 10 p.exponent.toNat, 1)
  else (p.digits, Nat.pow 10 (-p.exponent).toNat)

end DecimalPoint

namespace Binary64

/-- Is one ratio less than another, or equal to it where `closed`? -/
def below (closed : Bool) (x y : Nat × Nat) : Bool :=
  let left := x.1 * y.2
  let right := y.1 * x.2
  left < right || (closed && left == right)

/-- The ends of the interval of reals that round to a positive number. -/
def roundingEnds (x : Binary64) : (Nat × Nat) × (Nat × Nat) :=
  let quarter : Binary64 := ⟨false, 1, x.exponent - 2⟩
  let (one, den) := quarter.ratio
  let narrow := x.significand == 1 <<< 52 && x.exponent != minExponent
  let low := 4 * x.significand - (if narrow then 1 else 2)
  ((low * one, den), ((4 * x.significand + 2) * one, den))

/-- Does a decimal number round to the binary number `x`? -/
def readsBack (x : Binary64) (p : DecimalPoint) : Bool :=
  let closed := x.significand % 2 == 0
  let (low, high) := x.roundingEnds
  below closed low p.ratio && below closed p.ratio high

/-- The exponent of the first decimal digit: the number of places to the left of the point, or
of zeros to the right of it, found by trying at most `fuel` powers of ten. -/
def leadingExponent (num den : Nat) : Nat → Int → Int
  | 0, e => e
  | fuel + 1, e =>
      let (n, d) :=
        if 0 ≤ e then (num, den * Nat.pow 10 e.toNat) else (num * Nat.pow 10 (-e).toNat, den)
      if n < d then leadingExponent num den fuel (e - 1)
      else if 10 * d ≤ n then leadingExponent num den fuel (e + 1)
      else e

/-- The grid points with `count` digits on either side of a positive number. -/
def neighbours (x : Binary64) (leading : Int) (count : Nat) : DecimalPoint × DecimalPoint :=
  let exponent := leading - (count : Int) + 1
  let (num, den) := x.ratio
  let digits :=
    if 0 ≤ exponent then num / (den * Nat.pow 10 exponent.toNat)
    else num * Nat.pow 10 (-exponent).toNat / den
  (⟨digits, exponent⟩, ⟨digits + 1, exponent⟩)

/-- Is the lower of two neighbours at least as near as the upper one? -/
def lowerIsNearer (x : Binary64) (lower upper : DecimalPoint) : Bool :=
  let (num, den) := x.ratio
  let (a, b) := lower.ratio
  let (c, d) := upper.ratio
  let common := b * d * den
  let value := num * (b * d)
  let gapBelow := value - a * (d * den)
  let gapAbove := c * (b * den) - value
  decide (0 < common) && (gapBelow < gapAbove || (gapBelow == gapAbove && lower.digits % 2 == 0))

/-- The first grid, from `count` digits on, with a point that reads back. -/
def shortestFrom (x : Binary64) (leading : Int) : Nat → Nat → DecimalPoint
  | 0, count => (neighbours x leading count).1
  | fuel + 1, count =>
      let (lower, upper) := neighbours x leading count
      match readsBack x lower, readsBack x upper with
      | true, true => if lowerIsNearer x lower upper then lower else upper
      | true, false => lower
      | false, true => upper
      | false, false => shortestFrom x leading fuel (count + 1)

/-- The shortest decimal number that reads back as the positive number `x`. -/
def shortest (x : Binary64) : DecimalPoint :=
  let (num, den) := x.ratio
  let start : Int := ((num.log2 : Int) - den.log2) * 3 / 10
  let leading := leadingExponent num den 40 start
  (shortestFrom x leading 17 1).normalized 20

end Binary64

/-- The decisions of a notation for numbers with a fraction. -/
structure FloatForm where
  /-- The least exponent of the first digit that is written in place. -/
  leastInPlace : Int
  /-- The greatest exponent of the first digit that is written in place. -/
  greatestInPlace : Int
  /-- Is a plus sign written before an exponent that is not negative? -/
  plusSign : Bool

namespace FloatForm

/-- The digits of a decimal number with the point in its place. -/
def inPlace (digits : List Char) (leading : Int) : List Char :=
  if leading < 0 then
    ['0', '.'] ++ List.replicate ((-leading).toNat - 1) '0' ++ digits
  else
    let whole := leading.toNat + 1
    let fraction := digits.drop whole
    digits.take whole ++ List.replicate (whole - digits.length) '0' ++ ['.'] ++
      (if fraction.isEmpty then ['0'] else fraction)

/-- The digits of a decimal number with an exponent behind them. -/
def withExponent (form : FloatForm) (digits : List Char) (leading : Int) : List Char :=
  let fraction := digits.drop 1
  let sign := if leading < 0 then ['-'] else if form.plusSign then ['+'] else []
  digits.take 1 ++ (if fraction.isEmpty then [] else '.' :: fraction) ++ ['e'] ++ sign ++
    Text.decimalDigits leading.natAbs

/-- Write a binary number. -/
def write (form : FloatForm) (x : Binary64) : String :=
  let sign := if x.negative then ['-'] else []
  if x.isZero then String.ofList (sign ++ ['0', '.', '0'])
  else
    let p := x.shortest
    let digits := Text.decimalDigits p.digits
    let leading := p.exponent + (digits.length : Int) - 1
    let body :=
      if form.leastInPlace ≤ leading ∧ leading ≤ form.greatestInPlace then inPlace digits leading
      else form.withExponent digits leading
    String.ofList (sign ++ body)

end FloatForm

end Preflight
