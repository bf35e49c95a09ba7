import Preflight.Proofs.Patching

/-!
# What scrubbing makes of a text

A text is scrubbed of one secret after the other, so all secrets but the first are
looked for in a text that holds masks already. Secrets may overlap, be parts of each
other or be given twice, and which of them is found depends on what was found before.
The outcome can be told without this history: it is the text in which some pieces, no
two of which overlap, are masked, and each of these pieces is a secret where it stood
in the text as it was given.

This rests on one thing, that the mask has no character of any secret. A later secret
is then found only in what was kept, and one that is gone does not come back
(`not_occursIn_scrub_of_not_occursIn`); so after the last step all are gone, and to
scrub once more finds nothing.

## Main results

* `patched_scrub` — a scrubbed text is the given one with secrets masked.
* `masked_where_secret` — what scrubbing makes of a text, for any list of secrets.
-/

namespace Preflight

/-- The mask is put in the place of a secret from the list. -/
def Masks (secrets : List Secret) (old new : List Char) : Prop :=
  new = Secret.mask.toList ∧ ∃ secret ∈ secrets, secret.value ≠ "" ∧ secret.value.toList = old

/-- No secret of the list has a character of the mask. -/
def Starless (secrets : List Secret) : Prop :=
  ∀ secret ∈ secrets, '*' ∉ secret.value.toList

namespace Text

variable {piece mask : List Char}

/-- Whatever the scan does not pass over is patched by it. -/
theorem patched_replaceFrom {R : List Char → List Char → Prop} (hpiece : piece ≠ [])
    (hput : R piece mask) (skip : Nat) (cs : List Char) :
    Patched R (cs.drop skip) (replaceFrom piece mask skip cs) := by
  induction cs generalizing skip with
  | nil =>
      rw [List.drop_nil]
      exact .nil
  | cons c rest ih =>
      cases skip with
      | succ skip => exact ih skip
      | zero =>
          show Patched R (c :: rest) (replaceFrom piece mask 0 (c :: rest))
          by_cases hfind : piece <+: c :: rest
          · rw [replaceFrom_cons_of_begins hpiece hfind]
            obtain ⟨tail, htail⟩ := hfind
            have hdrop : rest.drop (piece.length - 1) = tail := by
              have hlength := List.length_pos_of_ne_nil hpiece
              have hsucc : piece.length = piece.length - 1 + 1 := by omega
              rw [← List.drop_succ_cons (a := c), ← hsucc, ← htail, List.drop_left]
            rw [← htail]
            exact .put hput (hdrop ▸ ih (piece.length - 1))
          · rw [replaceFrom_cons_of_not_begins hfind]
            exact .keep c (ih 0)

end Text

/-! ## One secret -/

section Scrub

variable {secret : Secret} {secrets : List Secret} {text : String}

theorem patched_scrubOne (secret : Secret) (text : String) :
    Text.Patched (Masks [secret]) text.toList (scrubOne text secret).toList := by
  by_cases hvalue : secret.value = ""
  · have hempty : secret.isEmpty = true := by rw [Secret.isEmpty, hvalue]; rfl
    rw [scrubOne, hempty]
    exact .refl _ text.toList
  · have hpiece : secret.value.toList ≠ [] := fun hnil => hvalue (String.toList_inj.mp hnil)
    have hput : Masks [secret] secret.value.toList Secret.mask.toList :=
      ⟨rfl, secret, List.mem_cons_self, hvalue, rfl⟩
    rw [← scrub_singleton, toList_scrub hvalue]
    exact Text.patched_replaceFrom hpiece hput 0 text.toList

theorem evades_masks (h : '*' ∉ secret.value.toList) :
    Text.Evades secret.value.toList (Masks secrets) := by
  rintro old new ⟨rfl, -⟩
  refine ⟨by decide, fun c hc hmem => ?_⟩
  rw [Secret.eq_star_of_mem_mask hc] at hmem
  exact h hmem

/-! ## A list of secrets -/

theorem scrub_cons (text : String) (secret : Secret) (secrets : List Secret) :
    scrub text (secret :: secrets) = scrub (scrubOne text secret) secrets := rfl

/-- **A scrubbed text is the given one with secrets masked**, none of which overlap. -/
theorem patched_scrub (h : Starless secrets) (text : String) :
    Text.Patched (Masks secrets) text.toList (scrub text secrets).toList := by
  induction secrets generalizing text with
  | nil => exact .refl _ text.toList
  | cons secret secrets ih =>
      have hfirst := patched_scrubOne secret text
      have hrest := ih (fun other hother => h other (List.mem_cons_of_mem secret hother))
        (scrubOne text secret)
      have hboth : Text.Patched (fun old new => Masks [secret] old new ∨ Masks secrets old new)
          text.toList (scrub text (secret :: secrets)).toList := by
        refine hfirst.trans ?_ ?_ ?_ hrest
        · rintro old new ⟨rfl, -⟩
          decide
        · rintro old new ⟨-, other, -, hsome, rfl⟩ hnil
          exact hsome (String.toList_inj.mp hnil)
        · rintro old new old' new' hmasks ⟨-, other, hother, -, rfl⟩
          exact (evades_masks (h other (List.mem_cons_of_mem secret hother)) old new hmasks).2
      refine hboth.mono fun old new hmasks => ?_
      rcases hmasks with ⟨hnew, other, hother, hold⟩ | ⟨hnew, other, hother, hold⟩
      · rw [List.mem_singleton.mp hother] at hold
        exact ⟨hnew, secret, List.mem_cons_self, hold⟩
      · exact ⟨hnew, other, List.mem_cons_of_mem secret hother, hold⟩

/-- A secret that is not there does not come back. -/
theorem not_occursIn_scrub_of_not_occursIn (h : Starless secrets) (hsecret : secret.IsMaskable)
    (hgone : ¬ secret.OccursIn text) : ¬ secret.OccursIn (scrub text secrets) := fun hoccurs =>
  hgone ((patched_scrub h text).infix_left_of_right hsecret.toList_ne_nil
    (evades_masks hsecret.starless) hoccurs)

theorem forall_not_occursIn_scrub (h : Starless secrets) (text : String) :
    ∀ secret ∈ secrets, secret.value ≠ "" → ¬ secret.OccursIn (scrub text secrets) := by
  induction secrets generalizing text with
  | nil => nofun
  | cons first secrets ih =>
      have hrest : Starless secrets := fun other hother => h other (List.mem_cons_of_mem first hother)
      intro secret hmem hsome
      rcases List.mem_cons.mp hmem with rfl | hmem
      · have hmaskable : secret.IsMaskable := ⟨hsome, h secret List.mem_cons_self⟩
        rw [scrub_cons]
        exact not_occursIn_scrub_of_not_occursIn hrest hmaskable (not_occursIn_scrub hmaskable text)
      · exact ih hrest (scrubOne text first) secret hmem hsome

theorem scrub_of_forall_not_occursIn
    (h : ∀ secret ∈ secrets, secret.value ≠ "" → ¬ secret.OccursIn text) :
    scrub text secrets = text := by
  induction secrets with
  | nil => rfl
  | cons first secrets ih =>
      have hfirst : scrubOne text first = text := by
        by_cases hvalue : first.value = ""
        · rw [scrubOne, Secret.isEmpty, hvalue]
          rfl
        · exact scrub_of_not_occursIn (h first List.mem_cons_self hvalue)
      rw [scrub_cons, hfirst]
      exact ih fun secret hmem => h secret (List.mem_cons_of_mem first hmem)

/-- **What scrubbing makes of a text.** If no secret has a character of the mask, then no secret is
left in the scrubbed text; it is the given one with the mask in the place of secrets that stood
there without overlapping, and all else as it was; a text without a secret is not changed, and a
scrubbed one is not changed by being scrubbed again. -/
theorem masked_where_secret (text : String) (secrets : List Secret) (h : Starless secrets) :
    (∀ secret ∈ secrets, secret.value ≠ "" → ¬ secret.OccursIn (scrub text secrets)) ∧
      Text.Patched (Masks secrets) text.toList (scrub text secrets).toList ∧
      ((∀ secret ∈ secrets, secret.value ≠ "" → ¬ secret.OccursIn text) →
        scrub text secrets = text) ∧
      scrub (scrub text secrets) secrets = scrub text secrets := by
  have hgone := forall_not_occursIn_scrub h text
  exact ⟨hgone, patched_scrub h text, scrub_of_forall_not_occursIn,
    scrub_of_forall_not_occursIn hgone⟩

/-- Secrets that overlap themselves and each other, one of which is empty and one given twice, in a
text that holds stars of its own. -/
theorem masked_where_secret_overlapping :
    let secrets : List Secret := [⟨"aba"⟩, ⟨""⟩, ⟨"bab"⟩, ⟨"aba"⟩]
    let text := "*ababab* bab"
    Starless secrets ∧ scrub text secrets = "********************** **********" ∧
      Text.Patched (Masks secrets) text.toList (scrub text secrets).toList := by
  intro secrets text
  have hstarless : Starless secrets := by
    intro secret hsecret
    revert secret
    decide
  exact ⟨hstarless, by decide, (masked_where_secret text secrets hstarless).2.1⟩

end Scrub

end Preflight
