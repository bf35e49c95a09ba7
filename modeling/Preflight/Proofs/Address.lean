import Mathlib.Data.List.DropRight
import Preflight.Proofs.Scrubbing
import Preflight.Settings.Uri

/-!
# Addresses and the URIs that are made of them

An address may be written with blanks around it, with a scheme in any case and with
a suffix behind the scheme. None of this is left in the URI: the blanks are gone,
the scheme is one of two words, and the suffix is the one that the flags ask for.

An address is cut at the first mark that it holds. A mark does not overlap another
one, so a text is cut there exactly if the part in front of it holds none. This is
what makes a URI an address again: its scheme has no mark in it, and what follows
the mark is what followed it before.

## Main results

* `Text.splitOnce_eq_some_iff` — where a text is cut.
* `GraphSettings.addressParts_eq_iff` — the parts of an address.
* `GraphSettings.uri_told_by_flags` — which settings have a URI, and which one; it is
  its own URI, and a suffix of the scheme makes no difference.
-/

namespace Preflight

namespace Text

/-! ## Trimming -/

theorem trimStart_eq_self {cs : List Char} (h : ∀ c ∈ cs.head?, isBlank c = false) :
    trimStart cs = cs := by
  cases cs with
  | nil => rfl
  | cons c cs => rw [trimStart, List.dropWhile_cons, h c rfl, if_neg Bool.false_ne_true]

theorem trimEnd_trimEnd (cs : List Char) : trimEnd (trimEnd cs) = trimEnd cs :=
  List.rdropWhile_idempotent isBlank cs

theorem isBlank_eq_false_of_isUpper {c : Char} (h : c.isUpper = true) : isBlank c = false := by
  have hbounds : 65 ≤ c.toNat ∧ c.toNat ≤ 90 := by
    unfold Char.isUpper at h
    simpa [UInt32.le_iff_toNat_le] using h
  simp only [isBlank, Bool.or_eq_false_iff, Bool.and_eq_false_iff, beq_eq_false_iff_ne,
    decide_eq_false_iff_not]
  omega

/-- A character is a blank if its small letter is one. -/
theorem isBlank_toLower (c : Char) : isBlank c = true → isBlank c.toLower = true := by
  intro hblank
  cases hupper : c.isUpper with
  | true =>
      rw [isBlank_eq_false_of_isUpper hupper] at hblank
      cases hblank
  | false =>
      have hsame : c.toLower = c := by
        unfold Char.toLower
        unfold Char.isUpper at hupper
        rw [dif_neg]
        simpa using hupper
      rw [hsame]
      exact hblank

/-! ## Cutting at a mark -/

section Cutting

variable {mark before after cs : List Char}

theorem splitOnce_cons_of_begins {c : Char} {rest : List Char} (h : mark <+: c :: rest) :
    splitOnce mark (c :: rest) = some ([], (c :: rest).drop mark.length) := by
  rw [splitOnce, if_pos (List.isPrefixOf_iff_prefix.mpr h)]

theorem splitOnce_cons_of_not_begins {c : Char} {rest : List Char} (h : ¬ mark <+: c :: rest) :
    splitOnce mark (c :: rest) =
      (splitOnce mark rest).map fun (before, after) => (c :: before, after) := by
  rw [splitOnce, if_neg (mt List.isPrefixOf_iff_prefix.mp h)]

theorem splitOnce_eq_none_iff (hmark : mark ≠ []) : splitOnce mark cs = none ↔ ¬ mark <:+: cs := by
  induction cs with
  | nil => simp [splitOnce, hmark]
  | cons c rest ih =>
      by_cases hfind : mark <+: c :: rest
      · simp [splitOnce_cons_of_begins hfind, hfind.isInfix]
      · rw [splitOnce_cons_of_not_begins hfind, Option.map_eq_none_iff, ih, List.infix_cons_iff,
          or_iff_right hfind]

/-- The part in front of a cut does not hold the mark. -/
theorem of_splitOnce_eq_some (hmark : mark ≠ []) (h : splitOnce mark cs = some (before, after)) :
    cs = before ++ (mark ++ after) ∧ ¬ mark <:+: before := by
  induction cs generalizing before with
  | nil => simp [splitOnce, hmark] at h
  | cons c rest ih =>
      by_cases hfind : mark <+: c :: rest
      · rw [splitOnce_cons_of_begins hfind] at h
        obtain ⟨rfl, rfl⟩ := Prod.mk.inj (Option.some.inj h)
        obtain ⟨tail, htail⟩ := hfind
        rw [← htail, List.drop_left]
        exact ⟨rfl, fun hinfix => hmark (List.infix_nil.mp hinfix)⟩
      · rw [splitOnce_cons_of_not_begins hfind] at h
        obtain ⟨⟨front, back⟩, hsplit, hparts⟩ := Option.map_eq_some_iff.mp h
        obtain ⟨rfl, rfl⟩ := Prod.mk.inj hparts
        obtain ⟨rfl, hfront⟩ := ih hsplit
        refine ⟨rfl, fun hinfix => ?_⟩
        rcases List.infix_cons_iff.mp hinfix with hbegins | hinfix
        · exact hfind (hbegins.trans (List.prefix_append (c :: front) _))
        · exact hfront hinfix

theorem splitOnce_append (hmark : mark ≠ []) (hbefore : ¬ mark <:+: before)
    (happart : ∀ xs, ¬ Straddles mark xs (mark ++ after)) :
    splitOnce mark (before ++ (mark ++ after)) = some (before, after) := by
  induction before with
  | nil =>
      obtain ⟨c, tail, hcons⟩ := List.exists_cons_of_ne_nil hmark
      have hfind : mark <+: c :: (tail ++ after) := by
        rw [hcons]
        exact List.prefix_append (c :: tail) after
      have hwhole : mark ++ after = c :: (tail ++ after) := by rw [hcons, List.cons_append]
      rw [List.nil_append, hwhole, splitOnce_cons_of_begins hfind, ← hwhole, List.drop_left]
  | cons c front ih =>
      have hfront := ih fun hinfix => hbefore (List.infix_cons hinfix)
      have hfind : ¬ mark <+: c :: (front ++ (mark ++ after)) := fun hbegins =>
        hbefore (prefix_of_not_straddles (happart _) hbegins).isInfix
      rw [List.cons_append, splitOnce_cons_of_not_begins hfind, hfront]
      rfl

/-- **A text is cut where its first mark stands**, if marks do not overlap. -/
theorem splitOnce_eq_some_iff (hmark : mark ≠ [])
    (happart : ∀ xs, ¬ Straddles mark xs (mark ++ after)) :
    splitOnce mark cs = some (before, after) ↔
      cs = before ++ (mark ++ after) ∧ ¬ mark <:+: before := by
  refine ⟨of_splitOnce_eq_some hmark, ?_⟩
  rintro ⟨rfl, hbefore⟩
  exact splitOnce_append hmark hbefore happart

end Cutting

end Text

namespace GraphSettings

/-! ## The parts of an address -/

/-- A text has a scheme in front of its first mark and an address behind it. One without a mark is
an address for the scheme `bolt`. -/
inductive HasParts : List Char → List Char → List Char → Prop
  | cut {scheme : List Char} (address : List Char) (h : ¬ "://".toList <:+: scheme) :
      HasParts (scheme ++ ("://".toList ++ address)) scheme address
  | whole {raw : List Char} (h : ¬ "://".toList <:+: raw) : HasParts raw "bolt".toList raw

/-- The mark begins with a colon and has no other, so nothing of it is the beginning of another. -/
theorem not_straddles_mark (xs ys : List Char) :
    ¬ Text.Straddles "://".toList xs ("://".toList ++ ys) := by
  rintro ⟨u, v, hsplit, hu, hv, -, hbegins⟩
  obtain ⟨a, u, rfl⟩ := List.exists_cons_of_ne_nil hu
  obtain ⟨b, v, rfl⟩ := List.exists_cons_of_ne_nil hv
  have htail : u ++ b :: v = ['/', '/'] := (List.cons.inj hsplit).2.symm
  have hslash : b = '/' := by
    have hmem : b ∈ ['/', '/'] := htail ▸ List.mem_append_right u List.mem_cons_self
    simpa using hmem
  have hcolon : b = ':' := (List.cons_prefix_cons.mp hbegins).1
  exact absurd (hslash.symm.trans hcolon) (by decide)

theorem addressParts_eq_iff {hostPort : String} {scheme address : List Char} :
    addressParts hostPort = (scheme, address) ↔
      HasParts (Text.trim hostPort.toList) scheme address := by
  have hmark : "://".toList ≠ [] := by decide
  have hcut : ∀ {cs before : List Char},
      Text.splitOnce "://".toList cs = some (before, address) ↔
        cs = before ++ ("://".toList ++ address) ∧ ¬ "://".toList <:+: before :=
    Text.splitOnce_eq_some_iff hmark fun xs => not_straddles_mark xs address
  unfold addressParts
  dsimp only
  generalize Text.trim hostPort.toList = raw
  constructor
  · intro h
    cases hsplit : Text.splitOnce "://".toList raw with
    | none =>
        rw [hsplit] at h
        obtain ⟨rfl, rfl⟩ := Prod.mk.inj h
        exact .whole ((Text.splitOnce_eq_none_iff hmark).mp hsplit)
    | some parts =>
        rw [hsplit] at h
        obtain rfl : parts = (scheme, address) := h
        obtain ⟨rfl, hscheme⟩ := hcut.mp hsplit
        exact .cut address hscheme
  · intro h
    cases h with
    | cut _ hscheme =>
        rw [hcut.mpr ⟨rfl, hscheme⟩]
        rfl
    | whole hraw =>
        rw [(Text.splitOnce_eq_none_iff hmark).mpr hraw]
        rfl

/-- A text that ends in no blank has an address that ends in none. -/
theorem HasParts.trimEnd_address {raw scheme address : List Char} (h : HasParts raw scheme address)
    (hraw : Text.trimEnd raw = raw) : Text.trimEnd address = address := by
  cases h with
  | whole => exact hraw
  | cut =>
      have htrim := Text.trimEnd_append_of_last (c := '/') rfl (scheme ++ [':', '/']) address
      have hshape : scheme ++ ("://".toList ++ address) =
          scheme ++ [':', '/'] ++ '/' :: address := by
        rw [List.append_assoc]
        rfl
      rw [hshape, htrim] at hraw
      exact (List.cons.inj (List.append_cancel_left hraw)).2

/-! ## The URI -/

/-- The scheme without its suffix is one of those that are spoken. -/
def IsSpoken (scheme : List Char) : Prop :=
  baseScheme scheme = "bolt".toList ∨ baseScheme scheme = "neo4j".toList

/-- The suffix of the URI: there is one exactly if the session is to be secured. -/
def flagSuffix (settings : GraphSettings) : List Char :=
  if settings.encrypted then "+s".toList else []

/-- Secured sessions are asked for with verification alone. -/
def Verifies (settings : GraphSettings) : Prop :=
  settings.encrypted = true → settings.validates = true

theorem tlsSuffix_eq_ok_iff {settings : GraphSettings} {suffix : List Char} :
    settings.tlsSuffix = .ok suffix ↔ settings.Verifies ∧ suffix = settings.flagSuffix := by
  unfold tlsSuffix Verifies flagSuffix
  cases settings.encrypted <;> cases settings.validates <;> simp [eq_comm]

theorem uri_eq_ok_iff {settings : GraphSettings} {scheme address : List Char}
    (hparts : HasParts (Text.trim settings.hostPort.toList) scheme address) (text : String) :
    settings.uri = .ok text ↔
      (IsSpoken scheme ∧ address ≠ [] ∧ settings.Verifies) ∧
        text.toList =
          baseScheme scheme ++ (settings.flagSuffix ++ ("://".toList ++ address)) := by
  unfold uri
  rw [addressParts_eq_iff.mpr hparts]
  dsimp only
  by_cases hscheme : IsSpoken scheme
  · rw [if_neg (not_and_or.mpr (hscheme.imp not_not.mpr not_not.mpr))]
    by_cases haddress : address = []
    · simp [haddress]
    · have hsome : address.isEmpty = false := List.isEmpty_eq_false_iff.mpr haddress
      rw [hsome, if_neg Bool.false_ne_true]
      cases hsuffix : settings.tlsSuffix with
      | error fault =>
          have hrefused : ¬ settings.Verifies := by
            intro hverifies
            rw [tlsSuffix_eq_ok_iff.mpr ⟨hverifies, rfl⟩] at hsuffix
            cases hsuffix
          simp [Except.map, hrefused]
      | ok suffix =>
          obtain ⟨hverifies, rfl⟩ := tlsSuffix_eq_ok_iff.mp hsuffix
          rw [and_iff_right ⟨hscheme, haddress, hverifies⟩, Except.map, Except.ok.injEq,
            ← String.toList_inj, String.toList_ofList, List.append_assoc, List.append_assoc,
            eq_comm]
  · rw [if_pos (not_or.mp hscheme)]
    simp [hscheme]

/-! ## The URI as an address -/

/-- A scheme that is spoken begins with a letter. -/
theorem IsSpoken.head {scheme : List Char} (h : IsSpoken scheme) :
    ∀ c ∈ scheme.head?, Text.isBlank c = false := by
  intro c hc
  obtain ⟨rest, rfl⟩ : ∃ rest, scheme = c :: rest := List.head?_eq_some_iff.mp hc
  have hplus : c ≠ '+' := by
    rintro rfl
    rcases h with h | h <;> cases h
  have hbase : baseScheme (c :: rest) = c.toLower :: baseScheme rest := by
    simp [baseScheme, Text.asciiLower, hplus]
  have hletter : c.toLower = 'b' ∨ c.toLower = 'n' := by
    rw [IsSpoken, hbase] at h
    exact h.imp (fun h => (List.cons.inj h).1) (fun h => (List.cons.inj h).1)
  by_contra hblank
  have hlower := Text.isBlank_toLower c (by simpa using hblank)
  rcases hletter with heq | heq <;> rw [heq] at hlower <;> cases hlower

theorem trim_of_isSpoken {scheme : List Char} (h : IsSpoken scheme) (address : List Char) :
    Text.trim (scheme ++ ("://".toList ++ address)) =
      scheme ++ ("://".toList ++ Text.trimEnd address) := by
  have hstart : Text.trimStart (scheme ++ ("://".toList ++ address)) =
      scheme ++ ("://".toList ++ address) := by
    apply Text.trimStart_eq_self
    intro c hc
    cases scheme with
    | nil => rcases h with h | h <;> cases h
    | cons d rest => exact h.head c hc
  have hend := Text.trimEnd_append_of_last (c := '/') rfl (scheme ++ [':', '/']) address
  rw [Text.trim, hstart]
  rw [List.append_assoc, List.append_assoc] at hend
  exact hend

/-- The URI of settings whose address is written with a scheme. -/
theorem uri_of_written (settings : GraphSettings) {scheme : List Char} (h : IsSpoken scheme)
    (hmark : ¬ "://".toList <:+: scheme) (address : List Char) (text : String) :
    ({ settings with
        hostPort := String.ofList (scheme ++ ("://".toList ++ address)) }).uri = .ok text ↔
      (Text.trimEnd address ≠ [] ∧ settings.Verifies) ∧
        text.toList = baseScheme scheme ++
          (settings.flagSuffix ++ ("://".toList ++ Text.trimEnd address)) := by
  let written : GraphSettings :=
    { settings with hostPort := String.ofList (scheme ++ ("://".toList ++ address)) }
  have hparts : HasParts (Text.trim written.hostPort.toList) scheme (Text.trimEnd address) := by
    have hraw : written.hostPort.toList = scheme ++ ("://".toList ++ address) :=
      String.toList_ofList
    rw [hraw, trim_of_isSpoken h]
    exact .cut _ hmark
  rw [uri_eq_ok_iff hparts text, and_iff_right h]
  rfl

/-- The scheme of the URI is spoken as the one it is made from, and it has no mark in it. -/
theorem IsSpoken.flagged {scheme : List Char} (h : IsSpoken scheme) (settings : GraphSettings) :
    baseScheme (baseScheme scheme ++ settings.flagSuffix) = baseScheme scheme ∧
      ¬ "://".toList <:+: baseScheme scheme ++ settings.flagSuffix := by
  unfold flagSuffix
  rcases h with h | h <;> rw [h] <;> cases settings.encrypted <;> decide +kernel

/-- **The flags alone tell whether a session is secured.** Settings have a URI exactly if their
address names a scheme that is spoken, or none, and a host, and if what is secured is verified as
well. The URI has the scheme in small letters, the suffix of the flags and the address as it is
written. It is an address with itself for its URI; and an address with the suffix of its scheme
changed or left out has the same. -/
theorem uri_told_by_flags (settings : GraphSettings) :
    let raw := Text.trim settings.hostPort.toList
    let withAddress := fun hostPort : List Char =>
      { settings with hostPort := String.ofList hostPort }
    ((∃ text, settings.uri = .ok text) ↔
        ∃ scheme address, HasParts raw scheme address ∧ IsSpoken scheme ∧ address ≠ [] ∧
          settings.Verifies) ∧
      (∀ text scheme address, settings.uri = .ok text → HasParts raw scheme address →
        text.toList =
          baseScheme scheme ++ (settings.flagSuffix ++ ("://".toList ++ address))) ∧
      (∀ text, settings.uri = .ok text → ({ settings with hostPort := text }).uri = .ok text) ∧
      ∀ scheme other address, IsSpoken scheme → baseScheme scheme = baseScheme other →
        ¬ "://".toList <:+: scheme → ¬ "://".toList <:+: other → ∀ text,
          ((withAddress (scheme ++ ("://".toList ++ address))).uri = .ok text ↔
            (withAddress (other ++ ("://".toList ++ address))).uri = .ok text) := by
  intro raw withAddress
  have hraw : Text.trimEnd raw = raw := Text.trimEnd_trimEnd (Text.trimStart _)
  obtain ⟨scheme, address, hparts⟩ : ∃ scheme address, HasParts raw scheme address :=
    ⟨_, _, addressParts_eq_iff.mp rfl⟩
  refine ⟨⟨?_, ?_⟩, ?_, ?_, ?_⟩
  · rintro ⟨text, htext⟩
    exact ⟨scheme, address, hparts, ((uri_eq_ok_iff hparts text).mp htext).1⟩
  · rintro ⟨scheme, address, hparts, husable⟩
    exact ⟨_, (uri_eq_ok_iff hparts _).mpr ⟨husable, String.toList_ofList⟩⟩
  · intro text scheme address htext hparts
    exact ((uri_eq_ok_iff hparts text).mp htext).2
  · intro text htext
    obtain ⟨⟨hspoken, haddress, hverifies⟩, hchars⟩ := (uri_eq_ok_iff hparts text).mp htext
    obtain ⟨hbase, hmark⟩ := hspoken.flagged settings
    have hflagged : IsSpoken (baseScheme scheme ++ settings.flagSuffix) := by
      rw [IsSpoken, hbase]
      exact hspoken
    have hagain := settings.uri_of_written hflagged hmark address text
    rw [hparts.trimEnd_address hraw, hbase, List.append_assoc, ← hchars, String.ofList_toList]
      at hagain
    exact hagain.mpr ⟨⟨haddress, hverifies⟩, rfl⟩
  · intro scheme other address hspoken hsame hscheme hother text
    have hspoken' : IsSpoken other := by
      rw [IsSpoken, ← hsame]
      exact hspoken
    rw [settings.uri_of_written hspoken hscheme, settings.uri_of_written hspoken' hother, hsame]

/-- A suffix in the address secures nothing, and a second mark belongs to what follows the first. -/
example : ({ hostPort := "\t BOLT+s+x://a://b ", username := "neo4j", password := ⟨"pw"⟩ } :
    GraphSettings).uri = .ok "bolt://a://b" := by
  decide +kernel

end GraphSettings

end Preflight
