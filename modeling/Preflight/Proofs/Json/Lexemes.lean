import Preflight.Proofs.Json.Scalars

/-!
# The grammar of numbers and strings

Numbers and strings are well formed by their characters alone: a number may be out of
range, and a string may hold half of a surrogate pair. The reader finds the end of
either, whatever it says and whatever follows, and what it reads there does not depend
on what follows.

A string has a text if every surrogate in it is one of a pair (`Denotes`). If it has
none, its reader says which half is alone, or where the other half should have been, and
nothing else about the string (`IsHalf`).

## Main results

* `Numeral.scan?_numeral` — a number is taken off as it was written.
* `Page.StringBody.denotes_or_half` — a string has a text, or it is refused.
* `Page.readStringValue_body` — a string is read up to its closing quote.
-/

namespace Preflight

/-! ## Numbers -/

namespace Numeral

/-- One or more digits. -/
def Digits (cs : List Char) : Prop := cs ≠ [] ∧ ∀ c ∈ cs, Text.isDecimalDigit c = true

/-- Digits without a zero in front, or a zero. -/
inductive Whole : List Char → Prop where
  | zero : Whole ['0']
  | digits {c : Char} {cs : List Char} (hc : c ≠ '0')
      (hdigits : ∀ d ∈ c :: cs, Text.isDecimalDigit d = true) : Whole (c :: cs)

/-- A point and digits, or nothing. -/
inductive Fraction : List Char → Prop where
  | none : Fraction []
  | point {digits : List Char} (hdigits : Digits digits) : Fraction ('.' :: digits)

/-- An exponent, or nothing. -/
inductive Exponent : List Char → Prop where
  | none : Exponent []
  | power {mark : Char} {sign digits : List Char} (hmark : mark = 'e' ∨ mark = 'E')
      (hsign : sign = [] ∨ sign = ['+'] ∨ sign = ['-']) (hdigits : Digits digits) :
      Exponent (mark :: (sign ++ digits))

/-- The texts of numbers. -/
inductive IsNumeral : List Char → Prop where
  | parts {sign whole fraction exponent : List Char} (hsign : sign = [] ∨ sign = ['-'])
      (hwhole : Whole whole) (hfraction : Fraction fraction) (hexponent : Exponent exponent) :
      IsNumeral (sign ++ (whole ++ (fraction ++ exponent)))

/-- A text that does not go on with a digit. -/
def EndsDigits (rest : List Char) : Prop :=
  ∀ c tail, rest = c :: tail → Text.isDecimalDigit c = false

section Scanning

variable {rest : List Char}

theorem takeWhile_digits {digits : List Char}
    (hdigits : ∀ c ∈ digits, Text.isDecimalDigit c = true) (h : EndsDigits rest) :
    (digits ++ rest).takeWhile Text.isDecimalDigit = digits := by
  rw [List.takeWhile_append_of_pos hdigits]
  cases rest with
  | nil => simp
  | cons c tail => simp [h c tail rfl]

theorem dropWhile_digits {digits : List Char}
    (hdigits : ∀ c ∈ digits, Text.isDecimalDigit c = true) (h : EndsDigits rest) :
    (digits ++ rest).dropWhile Text.isDecimalDigit = rest := by
  rw [List.dropWhile_append_of_pos hdigits]
  cases rest with
  | nil => rfl
  | cons c tail => simp [h c tail rfl]

theorem scanWhole_whole {whole : List Char} (hwhole : Whole whole) (h : EndsDigits rest)
    (distance : Nat) : scanWhole distance (whole ++ rest) = .ok (whole, rest) := by
  cases hwhole with
  | zero =>
      cases rest with
      | nil => rfl
      | cons c tail => simp [scanWhole, h c tail rfl]
  | @digits c cs hc hdigits =>
      have htake := takeWhile_digits hdigits h
      have hdrop := dropWhile_digits hdigits h
      rw [List.cons_append] at htake hdrop ⊢
      rw [scanWhole]
      · rw [htake, hdrop]
        rfl
      · intro tail heq
        exact hc (List.cons.inj heq).1

/-- A fraction is taken off as it was written. -/
theorem scanFraction_fraction {fraction : List Char} (hfraction : Fraction fraction) :
    ∃ digits : Option (List Char), ∀ distance rest, EndsDigits rest →
      (∀ tail, rest ≠ '.' :: tail) →
        scanFraction distance (fraction ++ rest) = .ok (digits, rest) := by
  cases hfraction with
  | none =>
      refine ⟨none, fun distance rest _ hpoint => ?_⟩
      rw [List.nil_append, scanFraction]
      exact fun tail => hpoint tail
  | @point digits hdigits =>
      refine ⟨some digits, fun distance rest h _ => ?_⟩
      have hsome : digits.isEmpty = false := by
        rw [List.isEmpty_eq_false_iff]
        exact hdigits.1
      simp only [List.cons_append, scanFraction, takeWhile_digits hdigits.2 h,
        dropWhile_digits hdigits.2 h, hsome, Bool.false_eq_true, if_false]

theorem scanSign_sign {sign digits : List Char}
    (hsign : sign = [] ∨ sign = ['+'] ∨ sign = ['-']) (hdigits : Digits digits) :
    ∃ negative length, ∀ rest,
      scanSign (sign ++ (digits ++ rest)) = (negative, length, digits ++ rest) := by
  obtain ⟨hne, hall⟩ := hdigits
  rcases hsign with rfl | rfl | rfl
  · refine ⟨false, 0, fun rest => ?_⟩
    obtain ⟨c, tail, rfl⟩ := List.exists_cons_of_ne_nil hne
    have hc := hall c List.mem_cons_self
    rw [List.nil_append, List.cons_append, scanSign]
    · rintro tail heq
      rw [(List.cons.inj heq).1] at hc
      revert hc
      decide
    · rintro tail heq
      rw [(List.cons.inj heq).1] at hc
      revert hc
      decide
  · exact ⟨false, 1, fun rest => rfl⟩
  · exact ⟨true, 1, fun rest => rfl⟩

/-- An exponent is taken off as it was written. -/
theorem scanExponent_exponent {exponent : List Char} (hexponent : Exponent exponent) :
    ∃ value length, ∀ distance rest, Ends rest →
      scanExponent distance (exponent ++ rest) = .ok (value, length, rest) := by
  cases hexponent with
  | none => exact ⟨none, 0, fun distance rest h => h.scanExponent_eq distance⟩
  | @power mark sign digits hmark hsign hdigits =>
      obtain ⟨negative, signLength, hscan⟩ := scanSign_sign hsign hdigits
      have hmark' : isExponentMark mark = true := by
        rcases hmark with rfl | rfl <;> rfl
      have hsome : digits.isEmpty = false := by
        rw [List.isEmpty_eq_false_iff]
        exact hdigits.1
      refine ⟨some (negative, digits), 1 + signLength + digits.length, fun distance rest h => ?_⟩
      have hends : EndsDigits rest := fun c tail heq => (h c tail heq).1
      simp only [List.cons_append, List.append_assoc, scanExponent, hmark', if_true, hscan,
        takeWhile_digits hdigits.2 hends, dropWhile_digits hdigits.2 hends, hsome,
        Bool.false_eq_true, if_false]

theorem Exponent.endsDigits {exponent : List Char} (hexponent : Exponent exponent)
    (h : Ends rest) :
    EndsDigits (exponent ++ rest) ∧ ∀ tail, exponent ++ rest ≠ '.' :: tail := by
  cases hexponent with
  | none => exact ⟨fun c tail heq => (h c tail heq).1, fun tail heq => (h _ _ heq).2.1 rfl⟩
  | power hmark =>
      refine ⟨fun c tail heq => ?_, fun tail heq => ?_⟩
      · obtain rfl := (List.cons.inj heq).1
        rcases hmark with rfl | rfl <;> rfl
      · rcases hmark with rfl | rfl <;> exact absurd (List.cons.inj heq).1 (by decide)

theorem Fraction.endsDigits {fraction : List Char} (hfraction : Fraction fraction)
    (h : EndsDigits rest) : EndsDigits (fraction ++ rest) := by
  cases hfraction with
  | none => exact h
  | point =>
      intro c tail heq
      obtain rfl := (List.cons.inj heq).1
      rfl

theorem scanMinus_sign {sign whole : List Char} (hsign : sign = [] ∨ sign = ['-'])
    (hwhole : Whole whole) :
    ∃ negative length, ∀ rest,
      scanMinus (sign ++ (whole ++ rest)) = (negative, length, whole ++ rest) := by
  rcases hsign with rfl | rfl
  · refine ⟨false, 0, fun rest => ?_⟩
    cases hwhole with
    | zero => rfl
    | digits _ hdigits => exact scanMinus_of_digit _ (hdigits _ List.mem_cons_self)
  · exact ⟨true, 1, fun rest => rfl⟩

/-- **A number is taken off as it was written**, whatever follows that is no part of it. -/
theorem scan?_numeral {cs : List Char} (h : IsNumeral cs) :
    ∃ parts length, ∀ rest, Ends rest → scan? (cs ++ rest) = .ok ⟨parts, length, rest⟩ := by
  cases h with
  | @parts sign whole fraction exponent hsign hwhole hfraction hexponent =>
      obtain ⟨negative, signLength, hminus⟩ := scanMinus_sign hsign hwhole
      obtain ⟨digits, hpoint⟩ := scanFraction_fraction hfraction
      obtain ⟨power, length, hpower⟩ := scanExponent_exponent hexponent
      refine ⟨⟨negative, whole, digits, power⟩, signLength + whole.length +
        (digits.elim 0 fun ds => ds.length + 1) + length, fun rest h => ?_⟩
      obtain ⟨hends, hnoPoint⟩ := hexponent.endsDigits h
      simp only [List.append_assoc, scan?, hminus, bind, Except.bind,
        scanWhole_whole hwhole (hfraction.endsDigits hends), hpoint _ _ hends hnoPoint,
        hpower _ _ h, pure, Except.pure]
      cases digits <;> rfl

end Scanning

/-- The text stands for a number that is in range. -/
def Denotes (cs : List Char) (n : JsonNumber) : Prop :=
  ∃ scan, scan? cs = .ok scan ∧ scan.parts.value? = .ok n

/-- What is read off a number: what it stands for, if it is in range. -/
inductive ReadsNumber (cs : List Char) : Except DecodeError JsonNumber → Prop where
  | number {n : JsonNumber} (h : Denotes cs n) : ReadsNumber cs (.ok n)
  | outOfRange {error : DecodeError} (hnone : ¬∃ n, Denotes cs n)
      (h : error.cause = .text .numberOutOfRange) : ReadsNumber cs (.error error)

/-- A number begins with a minus sign or a digit. -/
theorem IsNumeral.exists_head {cs : List Char} (h : IsNumeral cs) :
    ∃ c tail, cs = c :: tail ∧ (c = '-' ∨ Text.isDecimalDigit c = true) := by
  cases h with
  | parts hsign hwhole _ _ =>
      rcases hsign with rfl | rfl
      · cases hwhole with
        | zero => exact ⟨'0', _, rfl, .inr rfl⟩
        | digits _ hdigits => exact ⟨_, _, rfl, .inr (hdigits _ List.mem_cons_self)⟩
      · exact ⟨'-', _, rfl, .inl rfl⟩

end Numeral

/-! ## Strings -/

namespace Page

/-- Four hexadecimal digits and their number. -/
inductive HexCode : List Char → Nat → Prop where
  | digits {a b c d : Char} {i j k l : Nat} (ha : Text.hexValue? a = some i)
      (hb : Text.hexValue? b = some j) (hc : Text.hexValue? c = some k)
      (hd : Text.hexValue? d = some l) : HexCode [a, b, c, d] (((i * 16 + j) * 16 + k) * 16 + l)

/-- What stands for one character inside a string. -/
inductive WrittenChar : List Char → Char → Prop where
  | self {c : Char} (hquote : c ≠ '"') (hslash : c ≠ '\\') (hcontrol : ¬c.toNat < 32) :
      WrittenChar [c] c
  | letter {letter c : Char} (h : letterEscape? letter = some c) : WrittenChar ['\\', letter] c
  /-- Four digits of a number that is no surrogate. -/
  | unit {digits : List Char} {code : Nat} (h : HexCode digits code)
      (hunit : code < 0xD800 ∨ 0xDFFF < code) :
      WrittenChar ('\\' :: 'u' :: digits) (Char.ofNat code)
  /-- A pair of surrogates, each with its four digits. -/
  | pair {digits digits' : List Char} {high low : Nat} (h : HexCode digits high)
      (h' : HexCode digits' low) (hhigh : 0xD800 ≤ high ∧ high ≤ 0xDBFF)
      (hlow : 0xDC00 ≤ low ∧ low ≤ 0xDFFF) :
      WrittenChar ('\\' :: 'u' :: digits ++ '\\' :: 'u' :: digits')
        (Char.ofNat (0x10000 + (high - 0xD800) * 0x400 + (low - 0xDC00)))

/-- What may stand behind the opening quote of a string, with the closing one. An escape of four
digits may stand for half of a surrogate pair. -/
inductive StringBody : List Char → Prop where
  | close : StringBody ['"']
  | self {c : Char} {cs : List Char} (hquote : c ≠ '"') (hslash : c ≠ '\\')
      (hcontrol : ¬c.toNat < 32) (hrest : StringBody cs) : StringBody (c :: cs)
  | letter {letter c : Char} {cs : List Char} (h : letterEscape? letter = some c)
      (hrest : StringBody cs) : StringBody ('\\' :: letter :: cs)
  | code {digits cs : List Char} {code : Nat} (h : HexCode digits code) (hrest : StringBody cs) :
      StringBody ('\\' :: 'u' :: (digits ++ cs))

/-- The text of a string, if it has one: every surrogate in it is one of a pair. -/
inductive Denotes : List Char → List Char → Prop where
  | close : Denotes ['"'] []
  | char {written cs text : List Char} {c : Char} (h : WrittenChar written c)
      (hrest : Denotes cs text) : Denotes (written ++ cs) (c :: text)

theorem utf8Size_of_hexValue? {c : Char} {n : Nat} (h : Text.hexValue? c = some n) :
    c.utf8Size = 1 ∧ c ≠ '\n' := by
  have hbounds : 48 ≤ c.toNat ∧ c.toNat ≤ 102 := by
    unfold Text.hexValue? at h
    dsimp only at h
    split_ifs at h <;> simp_all <;> omega
  constructor
  · rw [Char.utf8Size_eq_one_iff, UInt32.le_iff_toNat_le]
    exact Nat.le_trans hbounds.2 (by decide)
  · rintro rfl
    exact absurd hbounds.1 (by decide)

section Escapes

variable {digits : List Char} {code : Nat}

theorem hexEscape_code (h : HexCode digits code) (place : Place) (rest : List Char) :
    hexEscape place (digits ++ rest) = .ok code := by
  cases h with
  | digits ha hb hc hd =>
      simp [hexEscape, byteCount, ha, hb, hc, hd, (utf8Size_of_hexValue? ha).1,
        (utf8Size_of_hexValue? hb).1, (utf8Size_of_hexValue? hc).1, (utf8Size_of_hexValue? hd).1]

theorem placeAfterBytes_zero (place : Place) (cs : List Char) :
    Cursor.placeAfterBytes 0 place cs = place := by
  cases cs <;> rfl

theorem placeAfterBytes_code (h : HexCode digits code) (place : Place) (rest : List Char) :
    Cursor.placeAfterBytes 4 place (digits ++ rest) = place.pastAll digits := by
  cases h with
  | digits ha hb hc hd =>
      simp [Cursor.placeAfterBytes, placeAfterBytes_zero, Place.pastAll, Place.past,
        utf8Size_of_hexValue? ha,
        utf8Size_of_hexValue? hb, utf8Size_of_hexValue? hc, utf8Size_of_hexValue? hd]

theorem length_code (h : HexCode digits code) : digits.length = 4 := by
  cases h
  rfl

theorem drop_code (h : HexCode digits code) (rest : List Char) :
    (digits ++ rest).drop 4 = rest := by
  cases h
  rfl

theorem readString_pass (cs rest : List Char) (place : Place) :
    readString cs.length place (cs ++ rest) = readString 0 (place.pastAll cs) rest := by
  induction cs generalizing place with
  | nil => rfl
  | cons c cs ih => exact ih (place.past c)

theorem skipString_pass (cs rest : List Char) (place : Place) :
    skipString cs.length place (cs ++ rest) = skipString 0 (place.pastAll cs) rest := by
  induction cs generalizing place with
  | nil => rfl
  | cons c cs ih => exact ih (place.past c)

theorem letterEscape?_unit : letterEscape? 'u' = none := rfl

theorem skipEscape_code (h : HexCode digits code) (place : Place) (rest : List Char) :
    skipEscape place ('u' :: (digits ++ rest)) = .ok 5 := by
  simp [skipEscape, letterEscape?_unit, hexEscape_code h, Except.map]

theorem skipString_code (h : HexCode digits code) (place : Place) (rest : List Char) :
    skipString 0 place ('\\' :: 'u' :: (digits ++ rest)) =
      skipString 0 (place.pastAll ('\\' :: 'u' :: digits)) rest := by
  have hpass := skipString_pass ('u' :: digits) rest (place.past '\\')
  rw [List.length_cons, length_code h] at hpass
  simp only [skipString, skipEscape_code h, Char.reduceEq, if_false, if_true]
  exact hpass

/-- A unit that is no surrogate is read as its character. -/
theorem readsChar_unit (h : HexCode digits code) (hunit : code < 0xD800 ∨ 0xDFFF < code) :
    ReadsChar ('\\' :: 'u' :: digits) (Char.ofNat code) where
  reading place tail := by
    have hescape : readEscape (place.past '\\') ('u' :: (digits ++ tail)) =
        .ok (Char.ofNat code, 5) := by
      have hlow : ¬(0xDC00 ≤ code ∧ code ≤ 0xDFFF) := by omega
      have hhigh : ¬(0xD800 ≤ code ∧ code ≤ 0xDBFF) := by omega
      simp [readEscape, letterEscape?_unit, hexEscape_code h, hlow, hhigh]
    have hpass := readString_pass ('u' :: digits) tail (place.past '\\')
    rw [List.length_cons, length_code h] at hpass
    simp only [List.cons_append, readString, hescape, Char.reduceEq, if_false, if_true]
    exact congrArg (Except.map _) hpass
  skipping place tail := skipString_code h place tail

/-- Two surrogates that make a pair are read as its character. -/
theorem readsChar_pair {digits' : List Char} {high low : Nat} (h : HexCode digits high)
    (h' : HexCode digits' low) (hhigh : 0xD800 ≤ high ∧ high ≤ 0xDBFF)
    (hlow : 0xDC00 ≤ low ∧ low ≤ 0xDFFF) :
    ReadsChar ('\\' :: 'u' :: digits ++ '\\' :: 'u' :: digits')
      (Char.ofNat (0x10000 + (high - 0xD800) * 0x400 + (low - 0xDC00))) where
  reading place tail := by
    have hsecond : ∀ place, secondHalf place ('\\' :: 'u' :: (digits' ++ tail)) = .ok low := by
      intro place
      simp [secondHalf, hexEscape_code h', hlow]
    have hescape : readEscape (place.past '\\')
        ('u' :: (digits ++ '\\' :: 'u' :: (digits' ++ tail))) =
          .ok (Char.ofNat (0x10000 + (high - 0xD800) * 0x400 + (low - 0xDC00)), 11) := by
      have hfirst : ¬(0xDC00 ≤ high ∧ high ≤ 0xDFFF) := by omega
      simp [readEscape, letterEscape?_unit, hexEscape_code h, drop_code h, hfirst, hhigh, hsecond]
    have hpass := readString_pass ('u' :: digits ++ '\\' :: 'u' :: digits') tail
      (place.past '\\')
    simp only [List.length_append, List.length_cons, length_code h, length_code h'] at hpass
    simp only [List.cons_append, List.append_assoc] at hpass ⊢
    simp only [readString, hescape, Char.reduceEq, if_false, if_true]
    exact congrArg (Except.map _) hpass
  skipping place tail := by
    have hfirst := skipString_code h place ('\\' :: 'u' :: (digits' ++ tail))
    have hsecond := skipString_code h' (place.pastAll ('\\' :: 'u' :: digits)) tail
    simp only [List.cons_append, List.append_assoc] at hfirst ⊢
    rw [hfirst, hsecond, ← List.cons_append, ← List.cons_append, Place.pastAll, Place.pastAll,
      Place.pastAll, List.foldl_append]

end Escapes

theorem WrittenChar.reads {written : List Char} {c : Char} (h : WrittenChar written c) :
    ReadsChar written c := by
  cases h with
  | self hquote hslash hcontrol => exact readsChar_self hquote hslash hcontrol
  | letter h => exact readsChar_letter h
  | unit h hunit => exact readsChar_unit h hunit
  | pair h h' hhigh hlow => exact readsChar_pair h h' hhigh hlow

/-- A string that has a text is read as it. -/
theorem Denotes.readString {cs text : List Char} (h : Denotes cs text) (place : Place)
    (rest : List Char) : readString 0 place (cs ++ rest) = .ok text := by
  induction h generalizing place with
  | close => simp [Page.readString]
  | char hwritten _ ih => rw [List.append_assoc, hwritten.reads.reading, ih]; rfl

/-- Whoever passes over a string stops behind its closing quote. -/
theorem StringBody.skipString {cs : List Char} (h : StringBody cs) (place : Place)
    (rest : List Char) : skipString 0 place (cs ++ rest) = .ok ⟨place.pastAll cs, rest⟩ := by
  induction h generalizing place with
  | close => simp [Page.skipString, Place.pastAll]
  | @self c cs hquote hslash hcontrol _ ih =>
      exact ((readsChar_self hquote hslash hcontrol).skipping place _).trans (ih _)
  | letter h _ ih => exact ((readsChar_letter h).skipping place _).trans (ih _)
  | @code digits cs code h _ ih =>
      rw [List.cons_append, List.cons_append, List.append_assoc, skipString_code h, ih,
        Place.pastAll, Place.pastAll, Place.pastAll, ← List.foldl_append]
      rfl

/-- An error about half of a surrogate pair. -/
def IsHalf (error : DecodeError) : Prop :=
  error.cause = .text .loneSurrogate ∨ error.cause = .text .endOfEscape

/-- An escape that is refused because it stands for half of a surrogate pair, whatever follows. -/
def HalfEscape (escape : List Char) : Prop :=
  ∀ place, ∃ error, IsHalf error ∧ ∀ rest, readEscape place (escape ++ rest) = .error error

/-- Behind the first half of a pair there is a second half, or the pair is refused. -/
theorem StringBody.second_half {cs : List Char} (h : StringBody cs) :
    (∃ digits low rest, HexCode digits low ∧ (0xDC00 ≤ low ∧ low ≤ 0xDFFF) ∧ StringBody rest ∧
      cs = '\\' :: 'u' :: (digits ++ rest)) ∨
    ∀ place, ∃ error, IsHalf error ∧ ∀ rest, secondHalf place (cs ++ rest) = .error error := by
  cases h with
  | close => exact .inr fun place => ⟨_, .inr rfl, fun rest => rfl⟩
  | @self c cs hquote hslash hcontrol hrest =>
      exact .inr fun place => ⟨_, .inr rfl, fun rest => by simp [secondHalf, hslash]; rfl⟩
  | @letter letter c cs h hrest =>
      have hletter : letter ≠ 'u' := by
        rintro rfl
        cases h
      exact .inr fun place => ⟨_, .inr rfl, fun rest => by simp [secondHalf, hletter]; rfl⟩
  | @code digits cs code h hrest =>
      by_cases hlow : 0xDC00 ≤ code ∧ code ≤ 0xDFFF
      · exact .inl ⟨digits, code, cs, h, hlow, hrest, rfl⟩
      · refine .inr fun place => ⟨.fault .loneSurrogate
          (some (((place.past '\\').past 'u').pastAll digits)), .inl rfl, fun rest => ?_⟩
        simp [secondHalf, hexEscape_code h, placeAfterBytes_code h, hlow]

/-- A string begins with its closing quote, with what stands for a character, or with an escape
that is refused. -/
theorem StringBody.step {cs : List Char} (h : StringBody cs) :
    cs = ['"'] ∨
    (∃ written c rest, WrittenChar written c ∧ StringBody rest ∧ cs = written ++ rest ∧
      rest.length < cs.length) ∨
    ∃ escape, HalfEscape escape ∧ cs = '\\' :: escape := by
  cases h with
  | close => exact .inl rfl
  | @self c cs hquote hslash hcontrol hrest =>
      exact .inr (.inl ⟨[c], c, cs, .self hquote hslash hcontrol, hrest, rfl, by simp⟩)
  | @letter letter c cs h hrest =>
      exact .inr (.inl ⟨['\\', letter], c, cs, .letter h, hrest, rfl,
        by simp only [List.length_cons]; omega⟩)
  | @code digits cs code h hrest =>
      by_cases hunit : code < 0xD800 ∨ 0xDFFF < code
      · refine .inr (.inl ⟨_, _, cs, .unit h hunit, hrest, by simp, ?_⟩)
        simp only [List.length_cons, List.length_append]
        omega
      · by_cases hlow : 0xDC00 ≤ code
        · -- A second half without a first one.
          refine .inr (.inr ⟨_, fun place => ⟨.fault .loneSurrogate
            (some ((place.past 'u').pastAll digits)), .inl rfl, fun rest => ?_⟩, rfl⟩)
          have hrange : 0xDC00 ≤ code ∧ code ≤ 0xDFFF := by omega
          simp [readEscape, letterEscape?_unit, hexEscape_code h, placeAfterBytes_code h, hrange]
        · have hhigh : 0xD800 ≤ code ∧ code ≤ 0xDBFF := by omega
          rcases hrest.second_half with ⟨digits', low, rest, h', hsecond, hlater, rfl⟩ | hsecond
          · refine .inr (.inl ⟨_, _, rest, .pair h h' hhigh hsecond, hlater, by simp, ?_⟩)
            simp only [List.length_cons, List.length_append]
            omega
          · refine .inr (.inr ⟨_, fun place => ?_, rfl⟩)
            obtain ⟨error, herror, hfails⟩ := hsecond ((place.past 'u').pastAll digits)
            refine ⟨error, herror, fun rest => ?_⟩
            simp [readEscape, letterEscape?_unit, hexEscape_code h, placeAfterBytes_code h,
              drop_code h, hlow, hhigh, hfails]

/-- **A string has a text, or it is refused for half of a surrogate pair**, whatever follows. -/
theorem StringBody.denotes_or_half {cs : List Char} (h : StringBody cs) :
    (∃ text, Denotes cs text) ∨ ∀ place, ∃ error, IsHalf error ∧
      ∀ rest, readString 0 place (cs ++ rest) = .error error := by
  -- A pair takes two escapes at once, so the induction is on the length.
  induction hlength : cs.length using Nat.strongRecOn generalizing cs with
  | ind n ih =>
      subst hlength
      rcases h.step with rfl | ⟨written, c, rest, hwritten, hrest, rfl, hless⟩ |
        ⟨escape, hescape, rfl⟩
      · exact .inl ⟨[], .close⟩
      · rcases ih rest.length hless hrest rfl with ⟨text, htext⟩ | hhalf
        · exact .inl ⟨c :: text, .char hwritten htext⟩
        · refine .inr fun place => ?_
          obtain ⟨error, herror, hfails⟩ := hhalf (place.pastAll written)
          refine ⟨error, herror, fun behind => ?_⟩
          rw [List.append_assoc, hwritten.reads.reading, hfails]
          rfl
      · refine .inr fun place => ?_
        obtain ⟨error, herror, hfails⟩ := hescape (place.past '\\')
        exact ⟨error, herror, fun behind => by simp [readString, hfails]⟩

/-- What is read off the inside of a string: its text, if it has one. -/
inductive ReadsText (body : List Char) : Except DecodeError String → Prop where
  | text {text : List Char} (h : Denotes body text) : ReadsText body (.ok (String.ofList text))
  | half {error : DecodeError} (hnone : ¬∃ text, Denotes body text) (h : IsHalf error) :
      ReadsText body (.error error)

/-- **A string is read up to its closing quote**, whatever follows. -/
theorem readStringValue_body {body : List Char} (h : StringBody body) (start inside : Place) :
    ∃ value, ReadsText body value ∧ ∀ rest, readStringValue start inside (body ++ rest) =
      (.string value (some start) (some (inside.pastAll body)),
        some ⟨inside.pastAll body, rest⟩) := by
  by_cases htext : ∃ text, Denotes body text
  · obtain ⟨text, htext⟩ := htext
    refine ⟨_, .text htext, fun rest => ?_⟩
    simp only [readStringValue, h.skipString, htext.readString, Except.map]
  · obtain ⟨error, herror, hfails⟩ := h.denotes_or_half.resolve_left htext inside
    refine ⟨_, .half htext herror, fun rest => ?_⟩
    simp only [readStringValue, h.skipString, hfails, Except.map]

theorem HexCode.newline_not_mem {digits : List Char} {code : Nat} (h : HexCode digits code) :
    '\n' ∉ digits := by
  cases h with
  | digits ha hb hc hd =>
      have ha := (utf8Size_of_hexValue? ha).2.symm
      have hb := (utf8Size_of_hexValue? hb).2.symm
      have hc := (utf8Size_of_hexValue? hc).2.symm
      have hd := (utf8Size_of_hexValue? hd).2.symm
      simp [ha, hb, hc, hd]

/-- A string is on one line. -/
theorem StringBody.newline_not_mem {cs : List Char} (h : StringBody cs) : '\n' ∉ cs := by
  induction h with
  | close => decide
  | self _ _ hcontrol _ ih =>
      refine List.not_mem_cons_of_ne_of_not_mem ?_ ih
      rintro rfl
      exact hcontrol (by decide)
  | letter h _ ih =>
      refine List.not_mem_cons_of_ne_of_not_mem (by decide)
        (List.not_mem_cons_of_ne_of_not_mem ?_ ih)
      rintro rfl
      cases h
  | code h _ ih =>
      refine List.not_mem_cons_of_ne_of_not_mem (by decide) (List.not_mem_cons_of_ne_of_not_mem
        (by decide) fun hmem => ?_)
      exact (List.mem_append.mp hmem).elim h.newline_not_mem ih

theorem foldl_utf8Size (cs : List Char) (count : Nat) :
    cs.foldl (fun count c => count + c.utf8Size) count = count + byteCount cs := by
  induction cs generalizing count with
  | nil => rfl
  | cons c cs ih =>
      rw [byteCount, List.foldl_cons, List.foldl_cons, ih, ih (0 + c.utf8Size)]
      omega

theorem byteCount_cons (c : Char) (cs : List Char) :
    byteCount (c :: cs) = c.utf8Size + byteCount cs := by
  rw [byteCount, List.foldl_cons, foldl_utf8Size]
  omega

/-- Behind characters on one line the column has grown by their bytes. -/
theorem pastAll_of_newline_not_mem {cs : List Char} (h : '\n' ∉ cs) (place : Place) :
    place.pastAll cs = { place with column := place.column + byteCount cs } := by
  induction cs generalizing place with
  | nil => rfl
  | cons c cs ih =>
      obtain ⟨hc, hcs⟩ := List.ne_and_not_mem_of_not_mem_cons h
      have hstep := ih hcs (place.past c)
      rw [Place.pastAll, List.foldl_cons, ← Place.pastAll, hstep, byteCount_cons, Place.past,
        if_neg (Ne.symm hc)]
      simp only [Nat.add_assoc]

/-- Strings of the same length in bytes end at the same place. -/
theorem StringBody.pastAll_eq {body body' : List Char} (h : StringBody body)
    (h' : StringBody body') (hbytes : byteCount body = byteCount body') (place : Place) :
    place.pastAll body = place.pastAll body' := by
  rw [pastAll_of_newline_not_mem h.newline_not_mem, pastAll_of_newline_not_mem h'.newline_not_mem,
    hbytes]

/-! ### Strings with a text -/

/-- A string has one text. -/
theorem Denotes.unique {cs text text' : List Char} (h : Denotes cs text) (h' : Denotes cs text') :
    text = text' :=
  Except.ok.inj ((h.readString default []).symm.trans (h'.readString default []))

theorem Denotes.eq_of_reads {cs text : List Char} {value : Except DecodeError String}
    (h : Denotes cs text) (hvalue : ReadsText cs value) : value = .ok (String.ofList text) := by
  cases hvalue with
  | text h' => rw [h.unique h']
  | half hnone => exact absurd ⟨text, h⟩ hnone

theorem WrittenChar.stringBody_append {written cs : List Char} {c : Char}
    (h : WrittenChar written c) (hrest : StringBody cs) : StringBody (written ++ cs) := by
  cases h with
  | self hquote hslash hcontrol => exact .self hquote hslash hcontrol hrest
  | letter h => exact .letter h hrest
  | unit h => exact .code h hrest
  | pair h h' =>
      rw [List.append_assoc]
      exact .code h (.code h' hrest)

/-- A string with a text is well formed. -/
theorem Denotes.stringBody {cs text : List Char} (h : Denotes cs text) : StringBody cs := by
  induction h with
  | close => exact .close
  | char hwritten _ ih => exact hwritten.stringBody_append ih

/-- The written form of a character stands for it. -/
theorem writtenChar_escapeChar (c : Char) : WrittenChar (Json.escapeChar c) c := by
  unfold Json.escapeChar
  split_ifs with hquote hslash _ _ _ _ _ hlow
  any_goals
    subst c
    exact .letter rfl
  · have hzero : Text.hexValue? '0' = some 0 := rfl
    have hcode := HexCode.digits hzero hzero
      (Text.hexValue?_digitChar (d := c.toNat / 16) (by omega))
      (Text.hexValue?_digitChar (d := c.toNat % 16) (by omega))
    have hvalue : ((0 * 16 + 0) * 16 + c.toNat / 16) * 16 + c.toNat % 16 = c.toNat := by omega
    rw [hvalue] at hcode
    have hunit := WrittenChar.unit hcode (by omega)
    rwa [Char.ofNat_toNat] at hunit
  · exact .self hquote hslash hlow

/-- A text is denoted by its written form. -/
theorem denotes_written (cs : List Char) : Denotes (cs.flatMap Json.escapeChar ++ ['"']) cs := by
  induction cs with
  | nil => exact .close
  | cons c cs ih =>
      rw [List.flatMap_cons, List.append_assoc]
      exact .char (writtenChar_escapeChar c) ih

end Page

end Preflight
