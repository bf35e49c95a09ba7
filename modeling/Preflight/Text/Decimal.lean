/-!
# Numbers as text

Decimal and hexadecimal digits of natural numbers, written and read. The
written form has no sign, no separators and no leading zero; zero is `0`.

## Main results

* `natOfDigits_decimalDigits` — reading what was written gives the number back.
-/

namespace Preflight.Text

/-- The character of a digit below sixteen, in lower case. -/
def digitChar (d : Nat) : Char :=
  if d < 10 then Char.ofNat (48 + d) else Char.ofNat (87 + d)

/-- The decimal digits of a number, the highest first. -/
def decimalDigits (n : Nat) : List Char :=
  if n < 10 then [digitChar n] else decimalDigits (n / 10) ++ [digitChar (n % 10)]
termination_by n

/-- The hexadecimal digits of a number, the highest first. -/
def hexDigits (n : Nat) : List Char :=
  if n < 16 then [digitChar n] else hexDigits (n / 16) ++ [digitChar (n % 16)]
termination_by n

/-- Write a number with its decimal digits. -/
def decimal (n : Nat) : String :=
  String.ofList (decimalDigits n)

/-- The digits of a number to a fixed width, filled up with zeros. -/
def paddedDigits (width n : Nat) : List Char :=
  let digits := decimalDigits n
  List.replicate (width - digits.length) '0' ++ digits

/-- An ASCII decimal digit. -/
def isDecimalDigit (c : Char) : Bool :=
  48 ≤ c.toNat && c.toNat ≤ 57

/-- The value of an ASCII decimal digit. -/
def digitValue (c : Char) : Nat :=
  c.toNat - 48

/-- The value of an ASCII hexadecimal digit in either case. -/
def hexValue? (c : Char) : Option Nat :=
  let n := c.toNat
  if 48 ≤ n && n ≤ 57 then some (n - 48)
  else if 97 ≤ n && n ≤ 102 then some (n - 87)
  else if 65 ≤ n && n ≤ 70 then some (n - 55)
  else none

/-- The value of a run of decimal digits, the highest first. -/
def natOfDigits (digits : List Char) : Nat :=
  digits.foldl (fun value c => value * 10 + digitValue c) 0

/-- The number a text writes with one or more decimal digits and nothing else. -/
def natOfDigits? (cs : List Char) : Option Nat :=
  if !cs.isEmpty && cs.all isDecimalDigit then some (natOfDigits cs) else none

theorem digitValue_digitChar {d : Nat} (h : d < 10) : digitValue (digitChar d) = d := by
  have : ∀ d : Fin 10, digitValue (digitChar d) = d := by decide
  exact this ⟨d, h⟩

/-- Reading the written digits gives the number back. -/
theorem natOfDigits_decimalDigits (n : Nat) : natOfDigits (decimalDigits n) = n := by
  induction n using Nat.strongRecOn with
  | ind n ih =>
    rw [decimalDigits]
    split
    · rename_i h
      simp [natOfDigits, digitValue_digitChar h]
    · rename_i h
      have ih' := ih (n / 10) (by omega)
      rw [natOfDigits] at ih'
      rw [natOfDigits, List.foldl_append, ih', List.foldl_cons, List.foldl_nil,
        digitValue_digitChar (Nat.mod_lt _ (by omega))]
      omega

end Preflight.Text
