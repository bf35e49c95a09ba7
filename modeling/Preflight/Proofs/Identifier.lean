import Mathlib
import Preflight.Proofs.Text
import Preflight.Uuid

/-!
# Identifiers are read back

The written form is 36 characters, none of which could begin one of the other
forms an identifier is read in, and its hyphens stand where the groups end. So it
is read as groups, the groups have their lengths, and the digits in them have the
value of the bits.

What is read back was not lost, so different identifiers are written differently.

## Main results

* `parse_text` — the written form of an identifier is read back.
* `text_injective` — different identifiers have different texts.
-/

namespace Preflight

namespace Uuid

/-- A character that hexadecimal digits are written with: no hyphen, and neither opens braces nor
begins the lead of a resource name. -/
def IsHexChar (c : Char) : Prop := c ≠ '-' ∧ c ≠ '\x7b' ∧ c.toLower ≠ 'u' ∧ c ≠ '/'

theorem isHexChar_digitChar {d : Nat} (h : d < 16) : IsHexChar (Text.digitChar d) := by
  have hall : ∀ d : Fin 16, Text.digitChar d ≠ '-' ∧ Text.digitChar d ≠ '\x7b' ∧
      (Text.digitChar d).toLower ≠ 'u' ∧ Text.digitChar d ≠ '/' := by decide
  exact hall ⟨d, h⟩

theorem length_hexFixed (width n : Nat) : (hexFixed width n).length = width := by
  induction width generalizing n with
  | zero => rfl
  | succ width ih => simp [hexFixed, ih]

theorem isHexChar_of_mem_hexFixed (width n : Nat) : ∀ c ∈ hexFixed width n, IsHexChar c := by
  induction width generalizing n with
  | zero => simp [hexFixed]
  | succ width ih =>
      intro c hc
      rcases List.mem_append.mp hc with hc | hc
      · exact ih (n / 16) c hc
      · rw [List.mem_singleton.mp hc]
        exact isHexChar_digitChar (Nat.mod_lt n (by omega))

/-- The digits of a number have its value, as far as they go. -/
theorem values_hexFixed (width n : Nat) :
    ∃ values, (hexFixed width n).mapM Text.hexValue? = some values ∧
      values.foldl (fun n d => n * 16 + d) 0 = n % 16 ^ width := by
  induction width generalizing n with
  | zero => exact ⟨[], rfl, by simp [Nat.mod_one]⟩
  | succ width ih =>
      obtain ⟨values, hvalues, hfold⟩ := ih (n / 16)
      refine ⟨values ++ [n % 16], ?_, ?_⟩
      · simp [hexFixed, List.mapM_append, hvalues,
          Text.hexValue?_digitChar (Nat.mod_lt n (by omega : 16 > 0))]
      · rw [List.foldl_append, hfold, List.foldl_cons, List.foldl_nil, Nat.pow_succ,
          Nat.mul_comm (16 ^ width) 16, Nat.mod_mul]
        omega

theorem ofHex?_hexFixed (id : Uuid) : ofHex? (hexFixed 32 id.bits.toNat) = some id := by
  obtain ⟨values, hvalues, hfold⟩ := values_hexFixed 32 id.bits.toNat
  have hlt : id.bits.toNat < 16 ^ 32 := id.bits.isLt
  rw [Nat.mod_eq_of_lt hlt] at hfold
  simp [ofHex?, length_hexFixed, hvalues, hfold]

/-! ## Groups -/

theorem map_length_pieces (lengths : List Nat) (cs : List Char) (h : lengths.sum ≤ cs.length) :
    (pieces lengths cs).map List.length = lengths := by
  induction lengths generalizing cs with
  | nil => rfl
  | cons n lengths ih =>
      rw [List.sum_cons] at h
      have hrest := ih (cs.drop n) (by rw [List.length_drop]; omega)
      simp only [pieces, List.map_cons, hrest, List.length_take]
      rw [Nat.min_eq_left (by omega)]

theorem flatten_pieces (lengths : List Nat) (cs : List Char) (h : lengths.sum = cs.length) :
    (pieces lengths cs).flatten = cs := by
  induction lengths generalizing cs with
  | nil =>
      rw [List.sum_nil] at h
      rw [List.eq_nil_of_length_eq_zero h.symm]
      rfl
  | cons n lengths ih =>
      rw [List.sum_cons] at h
      have hrest := ih (cs.drop n) (by rw [List.length_drop]; omega)
      simp [pieces, hrest, List.take_append_drop]

theorem splitAtChar_hyphenated (first : List Char) (groups : List (List Char))
    (h : ∀ group ∈ first :: groups, '-' ∉ group) :
    Text.splitAtChar '-' (hyphenated (first :: groups)) = first :: groups := by
  induction groups generalizing first with
  | nil => exact Text.splitAtChar_of_not_mem (h first List.mem_cons_self)
  | cons next groups ih =>
      have hrest := ih next fun group hgroup => h group (List.mem_cons_of_mem _ hgroup)
      rw [hyphenated, Text.splitAtChar_append,
        Text.splitAtChar_of_not_mem (h first List.mem_cons_self), hrest, List.singleton_append]
      simp

theorem mem_of_mem_pieces (lengths : List Nat) (cs : List Char) :
    ∀ group ∈ pieces lengths cs, ∀ c ∈ group, c ∈ cs := by
  induction lengths generalizing cs with
  | nil => simp [pieces]
  | cons n lengths ih =>
      intro group hgroup c hc
      rcases List.mem_cons.mp hgroup with rfl | hgroup
      · exact List.mem_of_mem_take hc
      · exact List.mem_of_mem_drop (ih (cs.drop n) group hgroup c hc)

theorem ofGroups?_chars (id : Uuid) : ofGroups? id.chars = some id := by
  have hlength : groupLengths.sum = (hexFixed 32 id.bits.toNat).length := by
    rw [length_hexFixed]
    rfl
  have hgroups : ∀ group ∈ pieces groupLengths (hexFixed 32 id.bits.toNat), '-' ∉ group := by
    intro group hgroup hmem
    have hc := isHexChar_of_mem_hexFixed 32 id.bits.toNat '-'
      (mem_of_mem_pieces groupLengths _ group hgroup '-' hmem)
    exact hc.1 rfl
  have hsplit : Text.splitAtChar '-' id.chars =
      pieces groupLengths (hexFixed 32 id.bits.toNat) :=
    splitAtChar_hyphenated _ _ hgroups
  rw [ofGroups?, hsplit, map_length_pieces _ _ (Nat.le_of_eq hlength), if_pos rfl,
    flatten_pieces _ _ hlength, ofHex?_hexFixed]

theorem length_hyphenated (first : List Char) (groups : List (List Char)) :
    (hyphenated (first :: groups)).length =
      ((first :: groups).map List.length).sum + groups.length := by
  induction groups generalizing first with
  | nil => simp [hyphenated]
  | cons next groups ih =>
      simp only [hyphenated, List.length_append, List.length_cons, ih next, List.map_cons,
        List.sum_cons]
      omega

theorem mem_hyphenated {groups : List (List Char)} {c : Char} (h : c ∈ hyphenated groups) :
    c = '-' ∨ ∃ group ∈ groups, c ∈ group := by
  fun_induction hyphenated groups with
  | case1 => cases h
  | case2 last => exact .inr ⟨last, List.mem_cons_self, h⟩
  | case3 first rest _ ih =>
      rcases List.mem_append.mp h with h | h
      · exact .inr ⟨first, List.mem_cons_self, h⟩
      · rcases List.mem_cons.mp h with h | h
        · exact .inl h
        · rcases ih h with h | ⟨group, hgroup, hc⟩
          · exact .inl h
          · exact .inr ⟨group, List.mem_cons_of_mem _ hgroup, hc⟩

theorem length_chars (id : Uuid) : id.chars.length = 36 := by
  have hlengths := map_length_pieces groupLengths (hexFixed 32 id.bits.toNat)
    (by rw [length_hexFixed]; decide)
  have hlength : (hyphenated (pieces groupLengths (hexFixed 32 id.bits.toNat))).length =
      ((pieces groupLengths (hexFixed 32 id.bits.toNat)).map List.length).sum + 4 :=
    length_hyphenated _ _
  rw [chars, hlength, hlengths]
  rfl

/-- The written form has hyphens and digits. -/
theorem eq_or_isHexChar_of_mem_chars (id : Uuid) {c : Char} (h : c ∈ id.chars) :
    c = '-' ∨ IsHexChar c := by
  rcases mem_hyphenated h with h | ⟨group, hgroup, hc⟩
  · exact .inl h
  · exact .inr (isHexChar_of_mem_hexFixed 32 id.bits.toNat c
      (mem_of_mem_pieces groupLengths _ group hgroup c hc))

theorem unwrapped_chars (id : Uuid) : unwrapped id.chars = none := by
  cases hchars : id.chars with
  | nil => rfl
  | cons c tail =>
      have hc : c ≠ '\x7b' ∧ c.toLower ≠ 'u' := by
        rcases id.eq_or_isHexChar_of_mem_chars (hchars ▸ List.mem_cons_self) with rfl | hc
        · decide
        · exact ⟨hc.2.1, hc.2.2.1⟩
      have hbraces : betweenBraces? (c :: tail) = none := by
        rw [betweenBraces?]
        intro rest heq
        exact hc.1 (List.cons.inj heq).1
      have hlead : behindLead? resourceLead (c :: tail) = none := by
        rw [behindLead?, if_neg]
        intro heq
        exact hc.2 (List.cons.inj heq).1
      rw [unwrapped, hbraces, hlead]
      rfl

/-- **The written form of an identifier is read back.** -/
theorem parse_text (id : Uuid) : parse id.text = .ok id := by
  have hhex : ofHex? id.chars = none := by
    rw [ofHex?, if_neg (by rw [id.length_chars]; decide)]
  simp [parse, text, unwrapped_chars, hhex, ofGroups?_chars]

theorem text_injective {id id' : Uuid} (h : id.text = id'.text) : id = id' := by
  have hparse := id.parse_text
  rw [h, id'.parse_text] at hparse
  exact (Except.ok.inj hparse).symm

end Uuid

end Preflight
