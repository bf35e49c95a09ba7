import Mathlib.Tactic.SplitIfs
import Preflight.Json.Parser
import Preflight.Json.Printer
import Preflight.Proofs.Text

/-!
# Numbers and strings are read back

The reader takes numbers and strings apart character by character, and it keeps
its place while it does so. What it finds does not depend on the place, so for
every piece of the written form there is one equation that says what reading it
comes to, for a reader who wants the value and for one who passes over it.

A numeral has no mark at its end. It ends where the text does not go on with
something that could be part of it (`Numeral.Ends`), which is how every statement
about numbers here is hedged. A string ends with its quote.

Only integers of 64 bits are written with all their digits (`JsonNumber.IsWord`).
A fraction is written with as many as tell it from its neighbours, and nothing is
said about it here.

## Main results

* `Numeral.scan?_text` — an integer of 64 bits is read back from its text.
* `Page.readStringValue_written` — a string is read back from its written form.
-/

namespace Preflight

/-! ## Integers -/

/-- Numbers that are written with a sign and digits alone: the integers of 64 bits. -/
def JsonNumber.IsWord : JsonNumber → Prop
  | natural n => n < Numeral.wordBound
  | negative n => 0 < n ∧ n ≤ 0x8000000000000000
  | fraction _ => False

namespace Numeral

/-- A text that does not go on with a numeral. -/
def Ends (rest : List Char) : Prop :=
  ∀ c tail, rest = c :: tail →
    Text.isDecimalDigit c = false ∧ c ≠ '.' ∧ isExponentMark c = false

section Scanning

variable {rest : List Char} (h : Ends rest)
include h

theorem Ends.takeWhile_eq : rest.takeWhile Text.isDecimalDigit = [] := by
  cases rest with
  | nil => rfl
  | cons c tail => simp [(h c tail rfl).1]

theorem Ends.dropWhile_eq : rest.dropWhile Text.isDecimalDigit = rest := by
  cases rest with
  | nil => rfl
  | cons c tail => simp [(h c tail rfl).1]

theorem Ends.scanWhole_eq (distance n : Nat) :
    scanWhole distance (Text.decimalDigits n ++ rest) = .ok (Text.decimalDigits n, rest) := by
  rcases Nat.eq_zero_or_pos n with rfl | hpos
  · rw [Text.decimalDigits_zero]
    cases rest with
    | nil => rfl
    | cons c tail => simp [scanWhole, (h c tail rfl).1]
  · obtain ⟨c, ds, hdigits, hc⟩ := Text.exists_decimalDigits_eq_cons hpos
    have hall := Text.isDecimalDigit_of_mem_decimalDigits n
    have htake : (Text.decimalDigits n ++ rest).takeWhile Text.isDecimalDigit =
        Text.decimalDigits n := by
      rw [List.takeWhile_append_of_pos hall, h.takeWhile_eq, List.append_nil]
    have hdrop : (Text.decimalDigits n ++ rest).dropWhile Text.isDecimalDigit = rest := by
      rw [List.dropWhile_append_of_pos hall, h.dropWhile_eq]
    rw [hdigits] at htake hdrop ⊢
    rw [scanWhole]
    · simp only [htake, hdrop]
      rfl
    · intro tail heq
      exact hc (List.cons.inj heq).1

theorem Ends.scanFraction_eq (distance : Nat) : scanFraction distance rest = .ok (none, rest) := by
  rw [scanFraction]
  intro tail heq
  exact (h '.' tail heq).2.1 rfl

theorem Ends.scanExponent_eq (distance : Nat) :
    scanExponent distance rest = .ok (none, 0, rest) := by
  cases rest with
  | nil => rfl
  | cons c tail => simp [scanExponent, (h c tail rfl).2.2]

/-- A sign and digits are taken off as they were written. -/
theorem Ends.scan?_eq {cs : List Char} {negative : Bool} {signLength n : Nat}
    (hminus : scanMinus cs = (negative, signLength, Text.decimalDigits n ++ rest)) :
    ∃ length, scan? cs = .ok ⟨⟨negative, Text.decimalDigits n, none, none⟩, length, rest⟩ := by
  simp only [scan?, hminus, h.scanWhole_eq, h.scanFraction_eq, h.scanExponent_eq, bind,
    Except.bind]
  exact ⟨_, rfl⟩

end Scanning

theorem foldl_wholeDigit (ds : List Char) (value : Nat)
    (hfits : ds.foldl (fun value c => value * 10 + Text.digitValue c) value < wordBound) :
    ds.foldl Scaled.wholeDigit ⟨value, 0, false⟩ =
      ⟨ds.foldl (fun value c => value * 10 + Text.digitValue c) value, 0, false⟩ := by
  induction ds generalizing value with
  | nil => rfl
  | cons c ds ih =>
      rw [List.foldl_cons] at hfits
      have hnext := Text.le_foldl_digits ds (value * 10 + Text.digitValue c)
      have hstep : Scaled.wholeDigit ⟨value, 0, false⟩ c =
          ⟨value * 10 + Text.digitValue c, 0, false⟩ := by
        rw [Scaled.wholeDigit, if_neg]
        simp only [Bool.false_or, decide_eq_true_eq]
        omega
      rw [List.foldl_cons, List.foldl_cons, hstep, ih _ hfits]

/-- The digits of a number of 64 bits fit the significand. -/
theorem wholePart_decimalDigits {n : Nat} (h : n < wordBound) :
    wholePart (Text.decimalDigits n) = ⟨n, 0, false⟩ := by
  have hvalue := Text.natOfDigits_decimalDigits n
  rw [Text.natOfDigits] at hvalue
  rw [wholePart, foldl_wholeDigit _ 0 (by rw [hvalue]; exact h), hvalue]

theorem value?_natural {n : Nat} (h : n < wordBound) :
    value? ⟨false, Text.decimalDigits n, none, none⟩ = .ok (.natural n) := by
  simp [value?, wholePart_decimalDigits h]

theorem value?_negative {n : Nat} (hpos : 0 < n) (h : n ≤ 0x8000000000000000) :
    value? ⟨true, Text.decimalDigits n, none, none⟩ = .ok (.negative n) := by
  have hword : n < wordBound := by
    rw [wordBound]
    omega
  simp [value?, wholePart_decimalDigits hword, hpos, h]

/-- An integer begins with a minus sign or a digit. -/
theorem exists_text_eq_cons {n : JsonNumber} (hn : n.IsWord) :
    ∃ c tail, n.text.toList = c :: tail ∧ (c = '-' ∨ Text.isDecimalDigit c = true) := by
  cases n with
  | natural n =>
      obtain ⟨c, ds, hdigits⟩ := List.exists_cons_of_ne_nil (Text.decimalDigits_ne_nil n)
      have hc : Text.isDecimalDigit c = true :=
        Text.isDecimalDigit_of_mem_decimalDigits n c (by rw [hdigits]; exact List.mem_cons_self)
      refine ⟨c, ds, ?_, .inr hc⟩
      rw [JsonNumber.text, Text.decimal, String.toList_ofList, hdigits]
  | negative n =>
      refine ⟨'-', Text.decimalDigits n, ?_, .inl rfl⟩
      simp [JsonNumber.text, Text.decimal]
  | fraction x => exact hn.elim

theorem scanMinus_of_digit {c : Char} (ds : List Char) (h : Text.isDecimalDigit c = true) :
    scanMinus (c :: ds) = (false, 0, c :: ds) := by
  rw [scanMinus]
  intro tail heq
  rw [(List.cons.inj heq).1] at h
  cases h

/-- An integer is read back from its text, whatever follows that is no part of it. -/
theorem scan?_text {n : JsonNumber} (hn : n.IsWord) {rest : List Char} (h : Ends rest) :
    ∃ scan, scan? (n.text.toList ++ rest) = .ok scan ∧ scan.parts.value? = .ok n ∧
      scan.rest = rest := by
  cases n with
  | natural n =>
      have hminus : scanMinus (Text.decimalDigits n ++ rest) =
          (false, 0, Text.decimalDigits n ++ rest) := by
        obtain ⟨c, ds, hdigits⟩ := List.exists_cons_of_ne_nil (Text.decimalDigits_ne_nil n)
        have hc := Text.isDecimalDigit_of_mem_decimalDigits n
        rw [hdigits] at hc ⊢
        exact scanMinus_of_digit (ds ++ rest) (hc c List.mem_cons_self)
      obtain ⟨length, hscan⟩ := h.scan?_eq hminus
      refine ⟨⟨⟨false, Text.decimalDigits n, none, none⟩, length, rest⟩, ?_,
        value?_natural hn, rfl⟩
      rw [JsonNumber.text, Text.decimal, String.toList_ofList]
      exact hscan
  | negative n =>
      have hminus : scanMinus ('-' :: Text.decimalDigits n ++ rest) =
          (true, 1, Text.decimalDigits n ++ rest) := rfl
      obtain ⟨length, hscan⟩ := h.scan?_eq hminus
      refine ⟨⟨⟨true, Text.decimalDigits n, none, none⟩, length, rest⟩, ?_,
        value?_negative hn.1 hn.2, rfl⟩
      simpa [JsonNumber.text, Text.decimal] using hscan
  | fraction x => exact hn.elim

end Numeral

/-! ## Strings -/

/-- The place behind some characters. -/
def Place.pastAll (place : Place) (cs : List Char) : Place := cs.foldl Place.past place

namespace Page

/-- Some characters inside a string are read as one. -/
structure ReadsChar (written : List Char) (c : Char) : Prop where
  reading : ∀ place tail, readString 0 place (written ++ tail) =
    (readString 0 (place.pastAll written) tail).map (c :: ·)
  skipping : ∀ place tail, skipString 0 place (written ++ tail) =
    skipString 0 (place.pastAll written) tail

theorem readsChar_letter {letter c : Char} (h : letterEscape? letter = some c) :
    ReadsChar ['\\', letter] c where
  reading place tail := by
    have hescape : readEscape (place.past '\\') (letter :: tail) = .ok (c, 1) := by
      simp [readEscape, h]
    simp [readString, hescape, Place.pastAll]
  skipping place tail := by
    have hescape : skipEscape (place.past '\\') (letter :: tail) = .ok 1 := by
      simp [skipEscape, h]
    simp [skipString, hescape, Place.pastAll]

theorem hexEscape_lowByte {code : Nat} (h : code < 256) (place : Place) (tail : List Char) :
    hexEscape place
      ('0' :: '0' :: Text.digitChar (code / 16) :: Text.digitChar (code % 16) :: tail) =
        .ok code := by
  have hhigh := Text.hexValue?_digitChar (d := code / 16) (by omega)
  have hlow := Text.hexValue?_digitChar (d := code % 16) (by omega)
  have hzero : Text.hexValue? '0' = some 0 := rfl
  have hhighSize := Text.utf8Size_digitChar (d := code / 16) (by omega)
  have hlowSize := Text.utf8Size_digitChar (d := code % 16) (by omega)
  have hzeroSize : '0'.utf8Size = 1 := rfl
  simp [hexEscape, byteCount, hhigh, hlow, hzero, hhighSize, hlowSize, hzeroSize]
  omega

theorem readsChar_lowByte {c : Char} (h : c.toNat < 256) :
    ReadsChar
      ['\\', 'u', '0', '0', Text.digitChar (c.toNat / 16), Text.digitChar (c.toNat % 16)] c where
  reading place tail := by
    have hescape : readEscape (place.past '\\') ('u' :: '0' :: '0' ::
        Text.digitChar (c.toNat / 16) :: Text.digitChar (c.toNat % 16) :: tail) = .ok (c, 5) := by
      have hletter : letterEscape? 'u' = none := rfl
      have hlow : ¬ 0xDC00 ≤ c.toNat := by omega
      have hhigh : ¬ 0xD800 ≤ c.toNat := by omega
      simp [readEscape, hletter, hexEscape_lowByte h, hlow, hhigh]
    simp [readString, hescape, Place.pastAll]
  skipping place tail := by
    have hescape : skipEscape (place.past '\\') ('u' :: '0' :: '0' ::
        Text.digitChar (c.toNat / 16) :: Text.digitChar (c.toNat % 16) :: tail) = .ok 5 := by
      have hletter : letterEscape? 'u' = none := rfl
      simp [skipEscape, hletter, hexEscape_lowByte h, Except.map]
    simp [skipString, hescape, Place.pastAll]

theorem readsChar_self {c : Char} (hquote : c ≠ '"') (hslash : c ≠ '\\') (h : ¬ c.toNat < 32) :
    ReadsChar [c] c where
  reading place tail := by
    simp [readString, hquote, hslash, isControl, h, Place.pastAll]
  skipping place tail := by
    simp [skipString, hquote, hslash, isControl, h, Place.pastAll]

/-- Every character is read back from its form inside a string. -/
theorem readsChar_escapeChar (c : Char) : ReadsChar (Json.escapeChar c) c := by
  unfold Json.escapeChar
  split_ifs with hquote hslash _ _ _ _ _ hlow
  -- The letters stand for themselves or for a control; the two cases that remain have no letter.
  any_goals
    subst c
    exact readsChar_letter rfl
  · exact readsChar_lowByte (by omega)
  · exact readsChar_self hquote hslash hlow

theorem readString_written (cs rest : List Char) (place : Place) :
    readString 0 place (cs.flatMap Json.escapeChar ++ '"' :: rest) = .ok cs := by
  induction cs generalizing place with
  | nil => simp [readString]
  | cons c cs ih =>
      rw [List.flatMap_cons, List.append_assoc, (readsChar_escapeChar c).reading, ih]
      rfl

theorem skipString_written (cs rest : List Char) (place : Place) :
    ∃ stop, skipString 0 place (cs.flatMap Json.escapeChar ++ '"' :: rest) = .ok ⟨stop, rest⟩ := by
  induction cs generalizing place with
  | nil => exact ⟨place.past '"', by simp [skipString]⟩
  | cons c cs ih =>
      rw [List.flatMap_cons, List.append_assoc, (readsChar_escapeChar c).skipping]
      exact ih _

/-- A string is read back from its written form. -/
theorem readStringValue_written (s : String) (start inside : Place) (rest : List Char) :
    ∃ stop, readStringValue start inside (s.toList.flatMap Json.escapeChar ++ '"' :: rest) =
      (.string (.ok s) (some start) (some stop), some ⟨stop, rest⟩) := by
  obtain ⟨stop, hskip⟩ := skipString_written s.toList rest inside
  refine ⟨stop, ?_⟩
  simp only [readStringValue, hskip, readString_written, Except.map, String.ofList_toList]

end Page

end Preflight
