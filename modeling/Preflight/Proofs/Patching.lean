import Preflight.Proofs.Scrubbing

/-!
# Texts with pieces put in the place of others

Two texts may have most of their characters in common, in the same order, and differ
in pieces that do not overlap: a secret in the one is a mask in the other, a capital
that is written in one character in the one is written in two in the other.
`Patched R` is this relation; `R` says which piece may stand in the place of which.

A piece that is looked for in the second text is of interest if it cannot reach into
what was put in (`Evades`). Then it can only be made of characters that were kept, so
it stands in the first text as well, and what surrounds it is patched as before. For
this reason a text can be patched twice in one go: what the second patch takes out is
made of characters that the first one kept. It is not a rule of induction on either
patch that shows this, for a piece that is taken out is passed at once in the one and
character by character in the other; the induction is on the length of the text in
the middle.

## Main results

* `Patched.infix_left_of_right` — what evades the patches was there before.
* `Patched.trans` — two patches as one.
-/

namespace Preflight.Text

variable {R S : List Char → List Char → Prop} {piece xs ys zs : List Char}

/-- The second text is the first one with some pieces, no two of which overlap, each replaced by
one that may stand in its place. All else is kept, in its order. -/
inductive Patched (R : List Char → List Char → Prop) : List Char → List Char → Prop
  | nil : Patched R [] []
  | keep (c : Char) {xs ys : List Char} (h : Patched R xs ys) : Patched R (c :: xs) (c :: ys)
  | put {old new xs ys : List Char} (hput : R old new) (h : Patched R xs ys) :
      Patched R (old ++ xs) (new ++ ys)

/-- Whatever is put in is something, and has no character of the piece. -/
def Evades (piece : List Char) (R : List Char → List Char → Prop) : Prop :=
  ∀ old new, R old new → new ≠ [] ∧ ∀ c ∈ new, c ∉ piece

theorem Evades.of_cons {c : Char} (h : Evades (c :: piece) R) : Evades piece R := by
  intro old new hput
  obtain ⟨hnew, hapart⟩ := h old new hput
  exact ⟨hnew, fun d hd hmem => hapart d hd (List.mem_cons_of_mem c hmem)⟩

namespace Patched

theorem append_left (us : List Char) (h : Patched R xs ys) : Patched R (us ++ xs) (us ++ ys) := by
  induction us with
  | nil => exact h
  | cons c us ih => exact .keep c ih

theorem refl (R : List Char → List Char → Prop) (xs : List Char) : Patched R xs xs := by
  have h : Patched R (xs ++ []) (xs ++ []) := append_left xs .nil
  rwa [List.append_nil] at h

theorem mono (h : Patched R xs ys) (hRS : ∀ old new, R old new → S old new) : Patched S xs ys := by
  induction h with
  | nil => exact .nil
  | keep c _ ih => exact .keep c ih
  | put hput _ ih => exact .put (hRS _ _ hput) ih

theorem flip (h : Patched R xs ys) : Patched (fun new old => R old new) ys xs := by
  induction h with
  | nil => exact .nil
  | keep c _ ih => exact .keep c ih
  | put hput _ ih => exact .put hput ih

theorem eq_nil (h : Patched R xs []) (hnew : ∀ old new, R old new → new ≠ []) : xs = [] := by
  generalize hys : ([] : List Char) = ys at h
  cases h with
  | nil => rfl
  | keep c _ => cases hys
  | put hput _ => exact absurd (List.append_eq_nil_iff.mp hys.symm).1 (hnew _ _ hput)

/-- A character at the beginning was kept, or it belongs to what was put in. -/
theorem cons_cases {c : Char} (h : Patched R xs (c :: ys)) :
    (∃ rest, xs = c :: rest ∧ Patched R rest ys) ∨
      ∃ old new before after, R old new ∧ xs = old ++ before ∧ c :: ys = new ++ after ∧
        Patched R before after := by
  generalize hcs : c :: ys = cs at h
  cases h with
  | nil => cases hcs
  | keep d h =>
      obtain ⟨rfl, rfl⟩ := List.cons.inj hcs
      exact .inl ⟨_, rfl, h⟩
  | put hput h => exact .inr ⟨_, _, _, _, hput, rfl, rfl, h⟩

/-- A piece at the beginning that evades the patches was at the beginning before. -/
theorem exists_append (hpiece : Evades piece R) (h : Patched R xs (piece ++ ys)) :
    ∃ rest, xs = piece ++ rest ∧ Patched R rest ys := by
  induction piece generalizing xs with
  | nil => exact ⟨xs, rfl, h⟩
  | cons c piece ih =>
      rcases h.cons_cases with ⟨rest, rfl, hrest⟩ | ⟨old, new, before, after, hput, -, hnew, -⟩
      · obtain ⟨rest', rfl, hrest'⟩ := ih hpiece.of_cons hrest
        exact ⟨rest', rfl, hrest'⟩
      · obtain ⟨hsome, hapart⟩ := hpiece old new hput
        obtain ⟨d, new, rfl⟩ := List.exists_cons_of_ne_nil hsome
        obtain ⟨rfl, -⟩ := List.cons.inj hnew
        exact absurd List.mem_cons_self (hapart c List.mem_cons_self)

/-- **A piece that evades the patches was there before.** -/
theorem infix_left_of_right (hsome : piece ≠ []) (hpiece : Evades piece R) (h : Patched R xs ys)
    (hfind : piece <:+: ys) : piece <:+: xs := by
  induction h with
  | nil => exact hfind
  | @keep c xs ys h ih =>
      rcases List.infix_cons_iff.mp hfind with ⟨after, hbegins⟩ | hfind
      · have hwhole : Patched R (c :: xs) (piece ++ after) := hbegins ▸ h.keep c
        obtain ⟨rest, hrest, -⟩ := hwhole.exists_append hpiece
        rw [hrest]
        exact (List.prefix_append piece rest).isInfix
      · exact List.infix_cons (ih hfind)
  | @put old new xs ys hput h ih =>
      have hbehind : piece <:+: ys :=
        infix_of_infix_append_left hsome (hpiece old new hput).2 hfind
      exact (ih hbehind).trans (List.suffix_append old xs).isInfix

/-- **Two patches are one**, if nothing that the first one puts in has a character in common with
anything that the second one takes out. -/
theorem trans (hR : ∀ old new, R old new → new ≠ []) (hS : ∀ old new, S old new → old ≠ [])
    (hapart : ∀ old new old' new', R old new → S old' new' → ∀ c ∈ new, c ∉ old')
    (h : Patched R xs ys) (h' : Patched S ys zs) :
    Patched (fun old new => R old new ∨ S old new) xs zs := by
  induction hlength : ys.length using Nat.strongRecOn generalizing xs ys zs with
  | ind length ih =>
      cases h with
      | nil =>
          obtain rfl : zs = [] := h'.flip.eq_nil fun new old hput => hS old new hput
          exact .nil
      | @keep c xs ys h =>
          rcases h'.flip.cons_cases with
            ⟨zs, rfl, hrest⟩ | ⟨new, old, after, before, hput, rfl, hold, hrest⟩
          · have hshorter : ys.length < length := by
              rw [← hlength, List.length_cons]
              omega
            exact .keep c (ih _ hshorter h hrest.flip rfl)
          · -- What is taken out begins with a character that was kept, so all of it was kept.
            have hevades : Evades old R := fun old' new' hput' =>
              ⟨hR old' new' hput', hapart old' new' old new hput' hput⟩
            have hwhole : Patched R (c :: xs) (old ++ before) := hold ▸ h.keep c
            obtain ⟨rest, hxs, hkept⟩ := hwhole.exists_append hevades
            have hshorter : before.length < length := by
              have hpos := List.length_pos_of_ne_nil (hS old new hput)
              rw [← hlength, hold, List.length_append]
              omega
            rw [hxs]
            exact .put (.inr hput) (ih _ hshorter hkept hrest.flip rfl)
      | @put old new xs ys hput h =>
          have hevades : Evades new fun new' old' => S old' new' := fun new' old' hput' =>
            ⟨hS old' new' hput', fun c hc hmem => hapart old new old' new' hput hput' c hmem hc⟩
          obtain ⟨rest, rfl, hrest⟩ := h'.flip.exists_append hevades
          have hshorter : ys.length < length := by
            have hpos := List.length_pos_of_ne_nil (hR old new hput)
            rw [← hlength, List.length_append]
            omega
          exact .put (.inl hput) (ih _ hshorter h hrest.flip rfl)

end Patched

end Preflight.Text
