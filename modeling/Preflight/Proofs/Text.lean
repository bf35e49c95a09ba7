import Preflight.Text.Decimal
import Preflight.Text.Search

/-!
# Digits and pieces of texts

What is written with digits is read back by whoever knows where the digits end.
The written form of a number helps with this: it is never empty, it has digits
alone, and only that of zero begins with a zero.

A text that is cut at a mark comes apart where the mark stands and nowhere else,
so pieces without the mark survive being joined by it.

## Main results

* `exists_decimalDigits_eq_cons` — the digits of a positive number begin with one
  that is not zero.
* `splitAtChar_append` — a text is cut at a mark, whatever stands around it.
-/

namespace Preflight.Text

/-! ## Digits -/

theorem isDecimalDigit_digitChar {d : Nat} (h : d < 10) : isDecimalDigit (digitChar d) = true := by
  have hall : ∀ d : Fin 10, isDecimalDigit (digitChar d) = true := by decide
  exact hall ⟨d, h⟩

theorem digitChar_ne_zero {d : Nat} (h : d < 10) (hpos : 0 < d) : digitChar d ≠ '0' := by
  have hall : ∀ d : Fin 10, 0 < d.val → digitChar d ≠ '0' := by decide
  exact hall ⟨d, h⟩ hpos

theorem hexValue?_digitChar {d : Nat} (h : d < 16) : hexValue? (digitChar d) = some d := by
  have hall : ∀ d : Fin 16, hexValue? (digitChar d) = some d.val := by decide
  exact hall ⟨d, h⟩

theorem utf8Size_digitChar {d : Nat} (h : d < 16) : (digitChar d).utf8Size = 1 := by
  have hall : ∀ d : Fin 16, (digitChar d).utf8Size = 1 := by decide
  exact hall ⟨d, h⟩

theorem isDecimalDigit_of_mem_decimalDigits (n : Nat) :
    ∀ c ∈ decimalDigits n, isDecimalDigit c = true := by
  induction n using Nat.strongRecOn with
  | ind n ih =>
      intro c hc
      rw [decimalDigits] at hc
      split at hc
      · rename_i hsmall
        rw [List.mem_singleton.mp hc]
        exact isDecimalDigit_digitChar hsmall
      · rename_i hlarge
        rcases List.mem_append.mp hc with hc | hc
        · exact ih (n / 10) (by omega) c hc
        · rw [List.mem_singleton.mp hc]
          exact isDecimalDigit_digitChar (Nat.mod_lt n (by omega))

/-- The digits of a positive number begin with one that is not zero. -/
theorem exists_decimalDigits_eq_cons {n : Nat} (hpos : 0 < n) :
    ∃ c ds, decimalDigits n = c :: ds ∧ c ≠ '0' := by
  induction n using Nat.strongRecOn with
  | ind n ih =>
      rw [decimalDigits]
      split
      · rename_i hsmall
        exact ⟨_, [], rfl, digitChar_ne_zero hsmall hpos⟩
      · rename_i hlarge
        obtain ⟨c, ds, hdigits, hc⟩ := ih (n / 10) (by omega) (by omega)
        exact ⟨c, ds ++ [digitChar (n % 10)], by rw [hdigits, List.cons_append], hc⟩

theorem decimalDigits_zero : decimalDigits 0 = ['0'] := by
  rw [decimalDigits]
  rfl

theorem decimalDigits_ne_nil (n : Nat) : decimalDigits n ≠ [] := by
  rw [decimalDigits]
  split <;> simp

/-- More digits never make a number smaller. -/
theorem le_foldl_digits (ds : List Char) (value : Nat) :
    value ≤ ds.foldl (fun value c => value * 10 + digitValue c) value := by
  induction ds generalizing value with
  | nil => exact Nat.le_refl value
  | cons c ds ih =>
      have hnext := ih (value * 10 + digitValue c)
      rw [List.foldl_cons]
      omega

/-! ## Pieces -/

variable {mark : Char} {cs : List Char}

theorem splitAtChar_of_not_mem (h : mark ∉ cs) : splitAtChar mark cs = [cs] := by
  induction cs with
  | nil => rfl
  | cons c cs ih =>
      have hc : c ≠ mark := fun heq => h (heq ▸ List.mem_cons_self)
      have hrest := ih fun hmem => h (List.mem_cons_of_mem _ hmem)
      simp [splitAtChar, hc, hrest]

theorem splitAtChar_ne_nil (mark : Char) (cs : List Char) : splitAtChar mark cs ≠ [] := by
  fun_induction splitAtChar mark cs <;> simp

/-- A text is cut at a mark, whatever stands around it. -/
theorem splitAtChar_append (mark : Char) (cs rest : List Char) :
    splitAtChar mark (cs ++ mark :: rest) = splitAtChar mark cs ++ splitAtChar mark rest := by
  induction cs with
  | nil => simp [splitAtChar]
  | cons c cs ih =>
      by_cases hc : c = mark
      · simp [splitAtChar, hc, ih]
      · rw [List.cons_append, splitAtChar, splitAtChar, if_neg hc, if_neg hc, ih]
        cases hsplit : splitAtChar mark cs with
        | nil => exact absurd hsplit (splitAtChar_ne_nil mark cs)
        | cons first others => rfl

end Preflight.Text
