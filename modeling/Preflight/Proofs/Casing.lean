import Mathlib
import Preflight.Proofs.Patching
import Preflight.Text.LowerCase

/-!
# Lower case, and the fragments that are found in it

The lower-case form of a character is a matter of tables. They are long, they grow with
every version of Unicode, and they do not take a character on its own: a capital sigma
has another form at the end of a word than elsewhere, and some characters have a form
of several characters. `LowerCasing` is what all of them have in common as far as ASCII
goes. An ASCII character has an ASCII character for its form, two others have a form
that begins with one, and all the rest stays outside of ASCII.

So two ways to put a text into lower case differ in pieces without an ASCII character,
and a fragment of ASCII characters is found by both of them or by none
(`LowerCasing.infix_lower_iff`). `foldCase` leaves most characters as they are, and it is one of
these ways; what it finds in a text is what any table finds there.

## Main results

* `LowerCasing.infix_lower_iff` — `foldCase` finds what every lower-case form holds.
* `foldCase_eq_of_asciiLower_eq` — the case of ASCII letters makes no difference.
-/

namespace Preflight.Text

/-! ## Tables of lower case -/

/-- A character outside of ASCII. -/
def IsForeign (c : Char) : Prop := 128 ≤ c.toNat

instance : DecidablePred IsForeign := fun c => inferInstanceAs (Decidable (128 ≤ c.toNat))

/-- A way to put texts into lower case. The form of a character may depend on the characters in
front of it, of which the nearest comes first, and on those behind it. -/
structure LowerCasing where
  form : List Char → Char → List Char → List Char
  ascii : ∀ before c after, ¬ IsForeign c → form before c after = [c.toLower]
  /-- The Kelvin sign. -/
  kelvin : ∀ before after, form before '\u212A' after = ['k']
  /-- The capital `I` with a dot, which is written with a combining one. -/
  dotted : ∀ before after, form before '\u0130' after = ['i', '\u0307']
  foreign : ∀ before c after, IsForeign c → c ≠ '\u212A' → c ≠ '\u0130' →
    form before c after ≠ [] ∧ ∀ d ∈ form before c after, IsForeign d

namespace LowerCasing

variable (casing casing' : LowerCasing)

/-- Put into lower case what stands behind `before`. -/
def lowerFrom : List Char → List Char → List Char
  | _, [] => []
  | before, c :: after => casing.form before c after ++ lowerFrom (c :: before) after

/-- Put a text into lower case. -/
def lower (cs : List Char) : List Char := casing.lowerFrom [] cs

end LowerCasing

/-! ## The plainest table -/

theorem toLower_of_isForeign {c : Char} (h : IsForeign c) : c.toLower = c := by
  apply Char.toLower_eq_of_not_isUpper
  unfold Char.isUpper
  simp only [decide_eq_true_eq, not_and, UInt32.le_iff_toNat_le, ge_iff_le]
  intro _ hle
  have hsmall : c.toNat ≤ 90 := hle
  unfold IsForeign at h
  omega

theorem foldChar_of_ne {c : Char} (hkelvin : c ≠ '\u212A') (hdotted : c ≠ '\u0130') :
    foldChar c = [c.toLower] := by
  rw [foldChar, if_neg hkelvin, if_neg hdotted]

/-- The table in which no character has a form but those that have one with ASCII in it. -/
def LowerCasing.plain : LowerCasing where
  form _ c _ := foldChar c
  ascii _ c _ h := by
    apply foldChar_of_ne
    · rintro rfl
      exact h (by decide)
    · rintro rfl
      exact h (by decide)
  kelvin _ _ := rfl
  dotted _ _ := rfl
  foreign _ c _ h hkelvin hdotted := by
    rw [foldChar_of_ne hkelvin hdotted, toLower_of_isForeign h]
    refine ⟨List.cons_ne_nil c [], fun d hd => ?_⟩
    rwa [List.mem_singleton.mp hd]

theorem LowerCasing.lowerFrom_plain (before cs : List Char) :
    plain.lowerFrom before cs = foldCase cs := by
  induction cs generalizing before with
  | nil => rfl
  | cons c cs ih =>
      show foldChar c ++ plain.lowerFrom (c :: before) cs = foldChar c ++ foldCase cs
      rw [ih]

/-! ## Fragments -/

/-- Both pieces are something, and neither has an ASCII character. -/
def BothForeign (old new : List Char) : Prop :=
  (old ≠ [] ∧ ∀ c ∈ old, IsForeign c) ∧ (new ≠ [] ∧ ∀ c ∈ new, IsForeign c)

/-- A fragment that is something, of ASCII characters alone. -/
def IsFragment (piece : List Char) : Prop := piece ≠ [] ∧ ∀ c ∈ piece, ¬ IsForeign c

theorem IsFragment.evades {piece : List Char} (h : IsFragment piece) : Evades piece BothForeign :=
  fun _ _ hput => ⟨hput.2.1, fun c hc hmem => h.2 c hmem (hput.2.2 c hc)⟩

namespace LowerCasing

variable (casing casing' : LowerCasing)

/-- Two tables agree on a text but for pieces without ASCII characters. -/
theorem patched_lowerFrom (before cs : List Char) :
    Patched BothForeign (casing.lowerFrom before cs) (casing'.lowerFrom before cs) := by
  induction cs generalizing before with
  | nil => exact .nil
  | cons c cs ih =>
      have hrest := ih (c :: before)
      rw [lowerFrom, lowerFrom]
      by_cases hforeign : IsForeign c
      · by_cases hkelvin : c = '\u212A'
        · rw [hkelvin, casing.kelvin, casing'.kelvin, ← hkelvin]
          exact hrest.append_left _
        · by_cases hdotted : c = '\u0130'
          · rw [hdotted, casing.dotted, casing'.dotted, ← hdotted]
            exact hrest.append_left _
          · exact .put ⟨casing.foreign before c cs hforeign hkelvin hdotted,
              casing'.foreign before c cs hforeign hkelvin hdotted⟩ hrest
      · rw [casing.ascii before c cs hforeign, casing'.ascii before c cs hforeign]
        exact hrest.append_left _

theorem infix_of_infix_lower {piece : List Char} (h : IsFragment piece) (cs : List Char)
    (hfind : piece <:+: casing'.lower cs) : piece <:+: casing.lower cs :=
  (patched_lowerFrom casing casing' [] cs).infix_left_of_right h.1 h.evades hfind

/-- **Every table finds the fragments that `foldCase` finds.** -/
theorem infix_lower_iff {piece : List Char} (h : IsFragment piece) (cs : List Char) :
    piece <:+: casing.lower cs ↔ piece <:+: foldCase cs := by
  rw [← lowerFrom_plain [] cs]
  exact ⟨infix_of_infix_lower plain casing h cs, infix_of_infix_lower casing plain h cs⟩

end LowerCasing

/-! ## The case of letters -/

theorem foldCase_append (xs ys : List Char) : foldCase (xs ++ ys) = foldCase xs ++ foldCase ys :=
  List.flatMap_append

theorem foldChar_toLower (c : Char) : foldChar c.toLower = foldChar c := by
  by_cases hupper : c.isUpper
  · -- A small letter is none of the two characters that have a form of their own.
    have hlower : c.toLower.isLower := by simp [Char.isAlpha, hupper]
    have hkelvin : c.toLower ≠ '\u212A' := fun heq => absurd (heq ▸ hlower) (by decide)
    have hdotted : c.toLower ≠ '\u0130' := fun heq => absurd (heq ▸ hlower) (by decide)
    rw [fold_of_isUpper hupper, foldChar_of_ne hkelvin hdotted, Char.toLower_toLower_eq_toLower]
  · rw [Char.toLower_eq_of_not_isUpper hupper]

theorem foldCase_asciiLower (cs : List Char) : foldCase (asciiLower cs) = foldCase cs := by
  unfold foldCase asciiLower
  rw [List.flatMap_map]
  exact congrArg (List.flatMap · cs) (funext foldChar_toLower)

/-- **Texts that differ in the case of ASCII letters alone have one lower-case form.** -/
theorem foldCase_eq_of_asciiLower_eq {xs ys : List Char} (h : asciiLower xs = asciiLower ys) :
    foldCase xs = foldCase ys := by
  rw [← foldCase_asciiLower xs, h, foldCase_asciiLower]

end Preflight.Text
