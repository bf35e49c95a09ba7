import Mathlib.Data.List.Infix
import Preflight.Graph

/-!
# What scrubbing leaves of a secret

A replaced text is made of masks and of what stood between the finds. A piece
that has no character in common with the mask cannot reach into one, so if it
were found in the result it would lie between two masks, where it stood in the
text before, and where the scan would have found it. So nothing of a secret is
put together by scrubbing (`not_occursIn_scrub`), and neither by what is done to
a text after it: the first line of a text is a part of it, and a cut one is a part
of it with dots behind.

Whether a find is replaced is decided by what is around it as well, since an
earlier find may reach into it. If none does (`Straddles`), a text is replaced in
parts. That is how one shows that a part is still there.

## Main results

* `not_infix_replaceAll` — the piece is not in the result.
* `replaceAll_append` — a text is replaced in parts.
* `not_occursIn_scrub`, `scrub_of_not_occursIn` — what scrubbing does to a secret, and
  to a text without it.
-/

namespace Preflight

namespace Text

variable {piece mask xs ys cs : List Char}

/-! ## Pieces -/

theorem contains_eq_true_iff : contains piece cs = true ↔ piece <:+: cs := by
  induction cs with
  | nil => rw [contains, List.isEmpty_iff, List.infix_nil]
  | cons c rest ih =>
      rw [contains, Bool.or_eq_true, List.isPrefixOf_iff_prefix, ih, List.infix_cons_iff]

/-- A piece does not begin among characters that it does not have. -/
theorem infix_of_infix_append_left (hpiece : piece ≠ []) (hxs : ∀ c ∈ xs, c ∉ piece)
    (h : piece <:+: xs ++ ys) : piece <:+: ys := by
  induction xs with
  | nil => exact h
  | cons x rest ih =>
      rw [List.cons_append, List.infix_cons_iff] at h
      rcases h with hprefix | hinfix
      · obtain ⟨c, tail, rfl⟩ := List.exists_cons_of_ne_nil hpiece
        obtain ⟨rfl, _⟩ := List.cons_prefix_cons.mp hprefix
        exact absurd List.mem_cons_self (hxs c List.mem_cons_self)
      · exact ih (fun c hc => hxs c (List.mem_cons_of_mem x hc)) hinfix

/-- Nor does it end among them. -/
theorem infix_of_infix_append_right (hpiece : piece ≠ []) (hys : ∀ c ∈ ys, c ∉ piece)
    (h : piece <:+: xs ++ ys) : piece <:+: xs := by
  rw [← List.reverse_infix] at h ⊢
  rw [List.reverse_append] at h
  refine infix_of_infix_append_left ?_ ?_ h
  · rwa [ne_eq, List.reverse_eq_nil_iff]
  · intro c hc
    rw [List.mem_reverse] at hc ⊢
    exact hys c hc

/-! ## Replacing -/

theorem replaceFrom_cons_of_begins {c : Char} {rest : List Char} (hpiece : piece ≠ [])
    (h : piece <+: c :: rest) :
    replaceFrom piece mask 0 (c :: rest) =
      mask ++ replaceFrom piece mask (piece.length - 1) rest := by
  rw [replaceFrom, if_pos]
  simpa [hpiece] using h

theorem replaceFrom_cons_of_not_begins {c : Char} {rest : List Char} (h : ¬ piece <+: c :: rest) :
    replaceFrom piece mask 0 (c :: rest) = c :: replaceFrom piece mask 0 rest := by
  rw [replaceFrom, if_neg]
  simp [h]

/-- What the result begins with up to a mask, the text begins with. -/
theorem prefix_of_prefix_replaceFrom (hmask : mask ≠ []) {start : List Char}
    (hstart : ∀ c ∈ mask, c ∉ start) (h : start <+: replaceFrom piece mask 0 cs) :
    start <+: cs := by
  induction cs generalizing start with
  | nil => exact h
  | cons c rest ih =>
      cases start with
      | nil => exact List.nil_prefix
      | cons s tail =>
          rw [replaceFrom] at h
          split at h
          · obtain ⟨m, more, rfl⟩ := List.exists_cons_of_ne_nil hmask
            obtain ⟨rfl, _⟩ := List.cons_prefix_cons.mp h
            exact absurd List.mem_cons_self (hstart s List.mem_cons_self)
          · obtain ⟨rfl, htail⟩ := List.cons_prefix_cons.mp h
            have hrest : tail <+: rest :=
              ih (fun m hm hmem => hstart m hm (List.mem_cons_of_mem s hmem)) htail
            exact List.cons_prefix_cons.mpr ⟨rfl, hrest⟩

theorem not_infix_replaceFrom (hpiece : piece ≠ []) (hmask : mask ≠ [])
    (hapart : ∀ c ∈ mask, c ∉ piece) (skip : Nat) :
    ¬ piece <:+: replaceFrom piece mask skip cs := by
  induction cs generalizing skip with
  | nil =>
      rw [replaceFrom, List.infix_nil]
      exact hpiece
  | cons c rest ih =>
      cases skip with
      | succ skip =>
          rw [replaceFrom]
          exact ih skip
      | zero =>
          intro h
          by_cases hfind : piece <+: c :: rest
          · rw [replaceFrom_cons_of_begins hpiece hfind] at h
            exact ih _ (infix_of_infix_append_left hpiece hapart h)
          · have hkeep : replaceFrom piece mask 0 (c :: rest) =
                c :: replaceFrom piece mask 0 rest := replaceFrom_cons_of_not_begins hfind
            rcases List.infix_cons_iff.mp (hkeep ▸ h) with hprefix | hinfix
            · rw [← hkeep] at hprefix
              exact hfind (prefix_of_prefix_replaceFrom hmask hapart hprefix)
            · exact ih 0 hinfix

/-- **Replacing leaves no find**, if the mask has no character of the piece. -/
theorem not_infix_replaceAll (hpiece : piece ≠ []) (hmask : mask ≠ [])
    (hapart : ∀ c ∈ mask, c ∉ piece) : ¬ piece <:+: replaceAll piece mask cs :=
  not_infix_replaceFrom hpiece hmask hapart 0

/-! ## Replacing in parts -/

/-- The piece fits over the end of one text and the beginning of another. -/
def Straddles (piece xs ys : List Char) : Prop :=
  ∃ u v, piece = u ++ v ∧ u ≠ [] ∧ v ≠ [] ∧ u <:+ xs ∧ v <+: ys

theorem Straddles.cons {x : Char} (h : Straddles piece xs ys) : Straddles piece (x :: xs) ys := by
  obtain ⟨u, v, hsplit, hu, hv, hsuffix, hprefix⟩ := h
  exact ⟨u, v, hsplit, hu, hv, hsuffix.trans (List.suffix_cons x xs), hprefix⟩

/-- A find at the beginning ends before the end of the first text. -/
theorem prefix_of_not_straddles {x : Char} (h : ¬ Straddles piece (x :: xs) ys)
    (hfind : piece <+: x :: (xs ++ ys)) : piece <+: x :: xs := by
  rcases List.prefix_or_prefix_of_prefix hfind (List.prefix_append (x :: xs) ys) with
    hshort | ⟨v, hv⟩
  · exact hshort
  · rw [← hv, ← List.cons_append, List.prefix_append_right_inj] at hfind
    by_cases hnil : v = []
    · rw [← hv, hnil, List.append_nil]
    · exact absurd ⟨x :: xs, v, hv.symm, List.cons_ne_nil x xs, hnil, List.suffix_rfl, hfind⟩ h

theorem replaceFrom_append (h : ¬ Straddles piece xs ys) {skip : Nat} (hskip : skip ≤ xs.length) :
    replaceFrom piece mask skip (xs ++ ys) =
      replaceFrom piece mask skip xs ++ replaceFrom piece mask 0 ys := by
  induction xs generalizing skip with
  | nil =>
      obtain rfl : skip = 0 := Nat.le_zero.mp hskip
      rfl
  | cons x rest ih =>
      have hrest : ¬ Straddles piece rest ys := fun hstraddles => h hstraddles.cons
      cases skip with
      | succ skip =>
          rw [List.cons_append, replaceFrom, replaceFrom]
          exact ih hrest (Nat.le_of_succ_le_succ hskip)
      | zero =>
          rw [List.cons_append, replaceFrom, replaceFrom]
          by_cases hfind : piece <+: x :: rest
          · have hfindAll : piece <+: x :: (rest ++ ys) :=
              hfind.trans (List.prefix_append (x :: rest) ys)
            have hlength : piece.length - 1 ≤ rest.length := by
              have hle := hfind.length_le
              rw [List.length_cons] at hle
              omega
            by_cases hpiece : piece = []
            · simp [hpiece, hpiece ▸ ih hrest (Nat.zero_le _)]
            · simp [hpiece, hfind, hfindAll, ih hrest hlength]
          · have hfindNone : ¬ piece <+: x :: (rest ++ ys) :=
              fun hfindAll => hfind (prefix_of_not_straddles h hfindAll)
            simp [hfind, hfindNone, ih hrest (Nat.zero_le _)]

/-- **A text is replaced in parts** where no find goes over from one to the other. -/
theorem replaceAll_append (h : ¬ Straddles piece xs ys) :
    replaceAll piece mask (xs ++ ys) = replaceAll piece mask xs ++ replaceAll piece mask ys :=
  replaceFrom_append h (Nat.zero_le _)

/-- A part without a find is still there. -/
theorem infix_replaceAll {mid : List Char} (hleft : ¬ Straddles piece xs (mid ++ ys))
    (hright : ¬ Straddles piece mid ys) (hmid : ¬ piece <:+: mid) :
    mid <:+: replaceAll piece mask (xs ++ (mid ++ ys)) := by
  have hcontains : contains piece mid = false := by
    rwa [← Bool.not_eq_true, contains_eq_true_iff]
  rw [replaceAll_append hleft, replaceAll_append hright, replaceAll_of_not_contains hcontains]
  exact ⟨replaceAll piece mask xs, replaceAll piece mask ys, List.append_assoc _ _ _⟩

section Padding

variable {c : Char} {count : Nat}

/-- A text that ends in enough of a character with which the piece does not begin. -/
theorem not_straddles_of_padded_left (hhead : piece.head? ≠ some c)
    (hcount : piece.length ≤ count) : ¬ Straddles piece (xs ++ List.replicate count c) ys := by
  rintro ⟨u, v, rfl, hu, hv, hsuffix, _⟩
  have hlength : u.length ≤ count := by
    rw [List.length_append] at hcount
    omega
  have hpadding : u <:+ List.replicate count c :=
    List.suffix_of_suffix_length_le hsuffix (List.suffix_append xs _) (by simpa using hlength)
  obtain ⟨d, tail, rfl⟩ := List.exists_cons_of_ne_nil hu
  obtain rfl : d = c := List.eq_of_mem_replicate (hpadding.subset List.mem_cons_self)
  exact hhead rfl

/-- A text that begins with enough of a character with which the piece does not end. -/
theorem not_straddles_of_padded_right (hlast : piece.getLast? ≠ some c)
    (hcount : piece.length ≤ count) : ¬ Straddles piece xs (List.replicate count c ++ ys) := by
  rintro ⟨u, v, rfl, hu, hv, _, hprefix⟩
  have hlength : v.length ≤ count := by
    rw [List.length_append] at hcount
    omega
  have hpadding : v <+: List.replicate count c :=
    List.prefix_of_prefix_length_le hprefix (List.prefix_append _ ys) (by simpa using hlength)
  have hmem : v.getLast hv ∈ List.replicate count c :=
    hpadding.subset (List.getLast_mem hv)
  rw [List.getLast?_append_of_ne_nil u hv, List.getLast?_eq_some_getLast hv,
    List.eq_of_mem_replicate hmem] at hlast
  exact hlast rfl

end Padding

/-! ## Cuts -/

/-- A piece without a dot that is in a cut text was in the text. -/
theorem infix_of_infix_cut (hpiece : piece ≠ []) (hdot : '.' ∉ piece) {limit : Nat}
    (h : piece <:+: cut cs limit) : piece <:+: cs := by
  obtain ⟨kept, count, hkept, hcut⟩ := exists_cut_eq cs limit
  have hdots : ∀ c ∈ dots count, c ∉ piece := by
    intro c hc
    rw [List.eq_of_mem_replicate hc]
    exact hdot
  rw [hcut] at h
  have hinfix : piece <:+: kept := infix_of_infix_append_right hpiece hdots h
  exact hinfix.trans hkept.isInfix

/-! ## Quoted pieces -/

theorem escapeChars_append (xs ys : List Char) :
    escapeChars (xs ++ ys) = escapeChars xs ++ escapeChars ys :=
  List.flatMap_append

theorem escapeChars_replicate {c : Char} (h : escapeChar c = [c]) (count : Nat) :
    escapeChars (List.replicate count c) = List.replicate count c := by
  induction count with
  | zero => rfl
  | succ count ih =>
      rw [List.replicate_succ, escapeChars, List.flatMap_cons, h, ← escapeChars, ih]
      rfl

/-- There is a character that is quoted as itself, and with which a text neither begins nor ends. -/
theorem exists_plainChar (cs : List Char) :
    ∃ c, escapeChar c = [c] ∧ cs.head? ≠ some c ∧ cs.getLast? ≠ some c := by
  by_cases ha : cs.head? ≠ some 'a' ∧ cs.getLast? ≠ some 'a'
  · exact ⟨'a', by decide, ha⟩
  · by_cases hb : cs.head? ≠ some 'b' ∧ cs.getLast? ≠ some 'b'
    · exact ⟨'b', by decide, hb⟩
    · refine ⟨'c', by decide, ?_⟩
      grind

end Text

/-! ## Secrets -/

namespace Secret

/-- The secret is somewhere in the text. -/
def OccursIn (secret : Secret) (text : String) : Prop := secret.value.toList <:+: text.toList

instance (secret : Secret) (text : String) : Decidable (secret.OccursIn text) :=
  decidable_of_iff _ Text.contains_eq_true_iff

/-- A secret that is something, and has no character of the mask. -/
structure IsMaskable (secret : Secret) : Prop where
  nonempty : secret.value ≠ ""
  starless : '*' ∉ secret.value.toList

variable {secret : Secret} {text : String}

theorem IsMaskable.toList_ne_nil (h : secret.IsMaskable) : secret.value.toList ≠ [] := by
  intro hnil
  exact h.nonempty (String.toList_inj.mp hnil)

theorem eq_star_of_mem_mask {c : Char} (hc : c ∈ mask.toList) : c = '*' := by
  have hmask : mask.toList = List.replicate 10 '*' := by decide
  rw [hmask] at hc
  exact List.eq_of_mem_replicate hc

theorem IsMaskable.mask_apart (h : secret.IsMaskable) :
    ∀ c ∈ mask.toList, c ∉ secret.value.toList := by
  intro c hc
  rw [eq_star_of_mem_mask hc]
  exact h.starless

end Secret

section Scrub

variable {secret : Secret}

theorem scrub_singleton (text : String) (secret : Secret) :
    scrub text [secret] = scrubOne text secret := rfl

theorem toList_scrub (h : secret.value ≠ "") (text : String) :
    (scrub text [secret]).toList =
      Text.replaceAll secret.value.toList Secret.mask.toList text.toList := by
  have hempty : secret.isEmpty = false := by
    rw [Secret.isEmpty, ← Bool.not_eq_true, String.isEmpty_iff]
    exact h
  rw [scrub_singleton, scrubOne, hempty]
  exact String.toList_ofList

/-- **A scrubbed text does not have the secret in it.** -/
theorem not_occursIn_scrub (h : secret.IsMaskable) (text : String) :
    ¬ secret.OccursIn (scrub text [secret]) := by
  rw [Secret.OccursIn, toList_scrub h.nonempty]
  exact Text.not_infix_replaceAll h.toList_ne_nil (by decide) h.mask_apart

/-- **A text without the secret is left as it is.** -/
theorem scrub_of_not_occursIn {text : String} (h : ¬ secret.OccursIn text) :
    scrub text [secret] = text := by
  have hcontains : Text.contains secret.value.toList text.toList = false := by
    rwa [← Bool.not_eq_true, Text.contains_eq_true_iff]
  rw [scrub_singleton, scrubOne]
  split
  · rfl
  · rw [Text.replaced, Text.replaceAll_of_not_contains hcontains, String.ofList_toList]

/-- The first line of a scrubbed text, cut to a limit, does not have the secret in it. -/
theorem not_occursIn_ellipsis (h : secret.IsMaskable) (hdot : '.' ∉ secret.value.toList)
    (text : String) (limit : Nat) :
    ¬ secret.OccursIn (Text.ellipsis (Text.firstLine (scrub text [secret])) limit) := by
  intro hoccurs
  rw [Secret.OccursIn, Text.ellipsis, String.toList_ofList, Text.firstLine,
    String.toList_ofList] at hoccurs
  have hline := Text.infix_of_infix_cut h.toList_ne_nil hdot hoccurs
  exact not_occursIn_scrub h text (hline.trans (Text.firstLineChars_prefix _).isInfix)

end Scrub

end Preflight
