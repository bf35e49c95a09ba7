import Preflight.Proofs.Json.Decoding

/-!
# Documents without their places

A document keeps the places of its parts, so that an error can tell where it
shows. Two texts that say the same in another order, or with other blanks, have
different places, and a value that is moved takes others on. `Doc.bare` forgets
them all: two documents of the same bare form say the same.

A decoder is *blind* if what it accepts, and what it reads there, does not depend
on places. Its errors may depend on them, since that is what places are for. So
every reader is first described with its errors forgotten, as a reader into
`Option`; there a place plays no part, and blindness is a matter of rewriting.

## Main results

* `Decoder.Blind.optional`, `Decoder.Blind.list`, `Decoder.blind_choice` — blind
  decoders and ways to build them from others.
* `RecordForm.blind_decode` — a record is read blindly if each of its fields is.
-/

namespace Preflight

/-! ## Forgetting places -/

/-- An error that does not tell where it shows. -/
def DecodeError.bare (error : DecodeError) : DecodeError := ⟨error.cause, none⟩

/-- A fault that does not tell where it shows. -/
def Flaw.bare (flaw : Flaw) : Flaw := ⟨flaw.reading.bare, flaw.skipping.bare⟩

/-- The name of a member without its places. -/
def Key.bare (key : Key) : Key := ⟨key.name.mapError DecodeError.bare, none, none⟩

mutual

/-- A document without its places. -/
def Doc.bare : Doc → Doc
  | .null _ _ => .null none none
  | .bool b _ _ => .bool b none none
  | .number n _ _ => .number (n.mapError DecodeError.bare) none none
  | .string s _ _ => .string (s.mapError DecodeError.bare) none none
  | .array items _ => .array items.bare none
  | .object members _ => .object members.bare none
  | .broken opening flaw _ => .broken opening flaw.bare none

/-- Items without their places. -/
def Items.bare : Items → Items
  | .item value rest => .item value.bare rest.bare
  | .closed _ => .closed none
  | .broken flaw ending => .broken flaw.bare ending.bare

/-- Members without their places. -/
def Members.bare : Members → Members
  | .member key value _ rest => .member key.bare value.bare none rest.bare
  | .closed _ => .closed none
  | .broken flaw => .broken flaw.bare
  | .keyless found flaw => .keyless found.bare flaw.bare

end

@[simp] theorem Doc.bare_string_ok (s : String) (start stop : Spot) :
    (Doc.string (.ok s) start stop).bare = .string (.ok s) none none := rfl

@[simp] theorem Doc.bare_number_ok (n : JsonNumber) (start stop : Spot) :
    (Doc.number (.ok n) start stop).bare = .number (.ok n) none none := rfl

/-! ## Forgetting errors -/

section Forgetting

variable {ε α β : Type}

@[simp] theorem toOption_ok (x : α) : (.ok x : Except ε α).toOption = some x := rfl

@[simp] theorem toOption_error (e : ε) : (.error e : Except ε α).toOption = none := rfl

@[simp] theorem toOption_map (result : Except ε α) (f : α → β) :
    (result.map f).toOption = result.toOption.map f := by
  cases result <;> rfl

theorem toOption_bind (result : Except ε α) (f : α → Except ε β) :
    (result >>= f).toOption = result.toOption.bind fun x => (f x).toOption := by
  cases result <;> rfl

@[simp] theorem toOption_mapError (result : Except ε α) (f : ε → ε) :
    (result.mapError f).toOption = result.toOption := by
  cases result <;> rfl

theorem toOption_eq_some_iff {result : Except ε α} {x : α} :
    result.toOption = some x ↔ result = .ok x := by
  cases result <;> simp

end Forgetting

/-- The name of a member is not one of its places. -/
@[simp] theorem Key.toOption_name_bare (key : Key) :
    key.bare.name.toOption = key.name.toOption :=
  toOption_mapError key.name DecodeError.bare

/-! ## Skipping -/

namespace Doc

theorem toOption_skipItems_item (value : Doc) (rest : Items) :
    (skipItems (.item value rest)).toOption =
      value.skip.toOption.bind fun _ => (skipItems rest).toOption := by
  rw [skipItems]
  cases value.skip <;> rfl

theorem toOption_skipMembers_member (key : Key) (value : Doc) (after : Spot) (rest : Members) :
    (skipMembers (.member key value after rest)).toOption =
      value.skip.toOption.bind fun _ => (skipMembers rest).toOption := by
  rw [skipMembers]
  cases value.skip <;> rfl

mutual

/-- Whether a value can be skipped does not depend on places. -/
theorem toOption_skip_bare : ∀ doc : Doc, doc.bare.skip.toOption = doc.skip.toOption
  | .null _ _ => rfl
  | .bool _ _ _ => rfl
  | .number _ _ _ => rfl
  | .string _ _ _ => rfl
  | .array items _ => toOption_skipItems_bare items
  | .object members _ => toOption_skipMembers_bare members
  | .broken _ _ _ => rfl

theorem toOption_skipItems_bare :
    ∀ items : Items, (skipItems items.bare).toOption = (skipItems items).toOption
  | .item value rest => by
      rw [Items.bare, toOption_skipItems_item, toOption_skipItems_item, toOption_skip_bare value,
        toOption_skipItems_bare rest]
  | .closed _ => rfl
  | .broken _ _ => rfl

theorem toOption_skipMembers_bare :
    ∀ members : Members, (skipMembers members.bare).toOption = (skipMembers members).toOption
  | .member _ value _ rest => by
      rw [Members.bare, toOption_skipMembers_member, toOption_skipMembers_member,
        toOption_skip_bare value, toOption_skipMembers_bare rest]
  | .closed _ => rfl
  | .broken _ => rfl
  | .keyless _ _ => rfl

end

end Doc

/-! ## Blind decoders -/

namespace Decoder

variable {α β : Type}

/-- What a decoder reads does not depend on places. -/
def Blind (decode : Decoder α) : Prop :=
  ∀ doc : Doc, (decode doc.bare).toOption = (decode doc).toOption

/-- A blind decoder reads the same off two documents that say the same. -/
theorem Blind.eq_ok_iff {decode : Decoder α} (h : Blind decode) {doc doc' : Doc}
    (hbare : doc.bare = doc'.bare) (x : α) : decode doc = .ok x ↔ decode doc' = .ok x := by
  rw [← toOption_eq_some_iff, ← toOption_eq_some_iff, ← h doc, ← h doc', hbare]

theorem Blind.map {decode : Decoder α} (h : Blind decode) (f : α → β) :
    Blind fun doc => (decode doc).map f := by
  intro doc
  simp only [toOption_map, h doc]

theorem blind_ofString (expected : String) (read : String → Except DecodeCause α) :
    Blind (ofString expected read) := by
  intro doc
  cases doc with
  | string value start stop =>
      cases value with
      | error e => rfl
      | ok s =>
          rw [Doc.bare_string_ok, ofString, ofString]
          cases read s <;> rfl
  | _ => rfl

theorem blind_string : Blind string :=
  blind_ofString "a string" .ok

theorem blind_word : Blind word := by
  intro doc
  cases doc with
  | number value start stop =>
      rcases value with e | (n | n | x) <;> rfl
  | _ => rfl

theorem blind_unit : Blind unit := by
  intro doc
  cases doc <;> rfl

theorem Blind.optional {decode : Decoder α} (h : Blind decode) : Blind (optional decode) := by
  intro doc
  have hsome := h.map some doc
  cases doc with
  | null => rfl
  | broken opening flaw start => cases opening <;> first | rfl | exact hsome
  | _ => exact hsome

/-- A value that may be `null` is accepted if it is, or if the decoder accepts it. -/
theorem exists_optional_iff (decode : Decoder α) {doc : Doc} (hdoc : doc.skip = .ok ()) :
    (∃ x, optional decode doc = .ok x) ↔
      doc.bare = .null none none ∨ ∃ x, decode doc = .ok x := by
  have hmap : (∃ x, (decode doc).map some = .ok x) ↔ ∃ x, decode doc = .ok x := by
    cases decode doc <;> simp [Except.map]
  cases doc with
  | null start stop => exact ⟨fun _ => .inl rfl, fun _ => ⟨none, rfl⟩⟩
  | broken opening flaw start => cases hdoc
  | _ => exact hmap.trans (by simp [Doc.bare])

theorem toOption_items_item (decode : Decoder α) (value : Doc) (rest : Items) :
    (items decode (.item value rest)).toOption =
      (decode value).toOption.bind fun x => (items decode rest).toOption.map (x :: ·) := by
  rw [items]
  cases decode value with
  | error e => rfl
  | ok x => exact toOption_map (items decode rest) (x :: ·)

theorem Blind.items {decode : Decoder α} (h : Blind decode) :
    ∀ list : Items, (items decode list.bare).toOption = (items decode list).toOption
  | .item value rest => by
      rw [Items.bare, toOption_items_item, toOption_items_item, h value, Blind.items h rest]
  | .closed _ => rfl
  | .broken _ _ => rfl

theorem Blind.list {decode : Decoder α} (h : Blind decode) : Blind (list decode) := by
  intro doc
  cases doc with
  | array items start => exact h.items items
  | _ => rfl

/-! ### Choices -/

theorem toOption_choose (known : List (String × α)) (name : String) (stop : Spot) :
    (choose known name stop).toOption = known.lookup name := by
  unfold choose
  cases known.lookup name <;> rfl

theorem toOption_onlyMember (key : Key) (value : Doc) (after : Spot) (rest : Members) :
    (onlyMember after rest).toOption =
      if isSingle (.member key value after rest) then some () else none := by
  cases rest with
  | broken flaw =>
      rw [onlyMember]
      split <;> rfl
  | _ => rfl

theorem toOption_chooseByMember_member (known : List (String × α)) (key : Key) (value : Doc)
    (after : Spot) (rest : Members) :
    (chooseByMember known (.member key value after rest)).toOption =
      key.name.toOption.bind fun name =>
        (known.lookup name).bind fun x =>
          (unit value).toOption.bind fun _ =>
            (onlyMember after rest).toOption.map fun _ => x := by
  simp only [chooseByMember, toOption_bind, toOption_choose, Option.map_eq_bind]
  rfl

theorem isSingle_bare (members : Members) : isSingle members.bare = isSingle members := by
  cases members with
  | member key value after rest => cases rest <;> rfl
  | _ => rfl

theorem toOption_chooseByMember_bare (known : List (String × α)) (members : Members) :
    (chooseByMember known members.bare).toOption = (chooseByMember known members).toOption := by
  cases members with
  | member key value after rest =>
      have honly : (onlyMember none rest.bare).toOption = (onlyMember after rest).toOption := by
        rw [toOption_onlyMember key.bare value.bare none, toOption_onlyMember key value after,
          ← isSingle_bare (.member key value after rest), Members.bare]
      rw [Members.bare, toOption_chooseByMember_member, toOption_chooseByMember_member,
        key.toOption_name_bare, blind_unit value, honly]
  | _ => rfl

/-- The choice written as an object is accepted with its places exactly if it is without. -/
theorem toOption_choice_object (known : List (String × α)) (members : Members) (start : Spot) :
    (choice known (.object members start)).toOption = (chooseByMember known members).toOption := by
  cases start with
  | some place => rfl
  | none =>
      rw [choice]
      split
      · rfl
      · rename_i hmany
        cases members with
        | member key value after rest =>
            rw [toOption_chooseByMember_member, toOption_onlyMember key value, if_neg hmany]
            cases key.name.toOption.bind (known.lookup ·) <;> simp
        | _ => rfl

theorem blind_choice (known : List (String × α)) : Blind (choice known) := by
  intro doc
  cases doc with
  | string value start stop =>
      cases value with
      | error e => rfl
      | ok s => simp only [Doc.bare_string_ok, choice, toOption_choose]
  | object members start =>
      rw [Doc.bare, toOption_choice_object, toOption_choice_object, toOption_chooseByMember_bare]
  | broken opening flaw start => cases opening <;> cases start <;> rfl
  | number value start stop => cases start <;> rfl
  | null start stop => cases start <;> rfl
  | bool value start stop => cases start <;> rfl
  | array items start => cases start <;> rfl

end Decoder

/-! ## Blind records -/

namespace RecordForm

variable {σ α : Type}

/-- What is left of reading a record once its errors are forgotten. -/
theorem toOption_complete (form : RecordForm σ α) (filled : Except DecodeError (σ × Spot)) :
    (filled.bind form.complete).toOption =
      (filled.toOption.map Prod.fst).bind fun draft => (form.finish draft).toOption := by
  rcases filled with e | ⟨draft, stop⟩
  · rfl
  · simp only [Except.bind, complete, toOption_ok, Option.map_some, Option.bind_some]
    cases form.finish draft <;> rfl

/-- The draft that the members of an object leave behind. -/
def draftOfMembers (slots : List (Slot σ)) (draft : σ) (members : Members) : Option σ :=
  (fillMembers slots draft members).toOption.map Prod.fst

/-- The draft that the items of an array leave behind. -/
def draftOfItems (short : String) (slots : List (Slot σ)) (index : Nat) (draft : σ)
    (items : Items) : Option σ :=
  (fillItems short slots index draft items).toOption.map Prod.fst

theorem draftOfMembers_member (slots : List (Slot σ)) (draft : σ) (key : Key) (value : Doc)
    (after : Spot) (rest : Members) :
    draftOfMembers slots draft (.member key value after rest) =
      key.name.toOption.bind fun name =>
        match slots.find? fun slot => slot.name = name with
        | none => value.skip.toOption.bind fun _ => draftOfMembers slots draft rest
        | some slot =>
            if slot.filled draft then none
            else
              (slot.fill draft value).toOption.bind fun draft =>
                draftOfMembers slots draft rest := by
  rw [draftOfMembers, fillMembers]
  cases key.name with
  | error e => rfl
  | ok name =>
      dsimp only [toOption_ok, Option.bind_some]
      cases slots.find? fun slot => slot.name = name with
      | none => cases value.skip <;> rfl
      | some slot =>
          dsimp only
          split
          · rfl
          · cases slot.fill draft value <;> rfl

theorem draftOfItems_item (short : String) (slot : Slot σ) (slots : List (Slot σ)) (index : Nat)
    (draft : σ) (value : Doc) (rest : Items) :
    draftOfItems short (slot :: slots) index draft (.item value rest) =
      (slot.fill draft value).toOption.bind fun draft =>
        draftOfItems short slots (index + 1) draft rest := by
  rw [draftOfItems, fillItems]
  cases slot.fill draft value <;> rfl

theorem draftOfItems_closed (short : String) (slot : Slot σ) (slots : List (Slot σ))
    (index : Nat) (draft : σ) (stop : Spot) :
    draftOfItems short (slot :: slots) index draft (.closed stop) =
      if slot.omissible then draftOfItems short slots (index + 1) draft (.closed stop)
      else none := by
  rw [draftOfItems, fillItems]
  split <;> rfl

theorem draftOfItems_surplus (short : String) (index : Nat) (draft : σ) (value : Doc)
    (rest : Items) : draftOfItems short [] index draft (.item value rest) = none := by
  rw [draftOfItems, fillItems]
  cases value.start <;> rfl

theorem toOption_decode_object (form : RecordForm σ α) (members : Members) (start : Spot) :
    (form.decode (.object members start)).toOption =
      (draftOfMembers form.slots form.blank members).bind fun draft =>
        (form.finish draft).toOption :=
  toOption_complete form _

theorem toOption_decode_array (form : RecordForm σ α) (items : Items) (start : Spot) :
    (form.decode (.array items start)).toOption =
      (draftOfItems form.describedSize form.slots 0 form.blank items).bind fun draft =>
        (form.finish draft).toOption :=
  toOption_complete form _

section Blind

variable {slots : List (Slot σ)} (hblind : ∀ slot ∈ slots, ∀ draft, (slot.fill draft).Blind)
include hblind

theorem draftOfMembers_bare : ∀ (draft : σ) (members : Members),
    draftOfMembers slots draft members.bare = draftOfMembers slots draft members
  | draft, .member key value after rest => by
      simp only [Members.bare, draftOfMembers_member, Key.toOption_name_bare,
        Doc.toOption_skip_bare, fun draft => draftOfMembers_bare draft rest]
      congr 1
      funext name
      cases hslot : slots.find? fun slot => slot.name = name with
      | none => rfl
      | some slot => simp only [hblind slot (List.mem_of_find?_eq_some hslot) draft value]
  | _, .closed _ => rfl
  | _, .broken _ => rfl
  | _, .keyless _ _ => rfl

theorem draftOfItems_bare (short : String) (index : Nat) (draft : σ) (items : Items) :
    draftOfItems short slots index draft items.bare =
      draftOfItems short slots index draft items := by
  induction slots generalizing index draft items with
  | nil =>
      cases items with
      | item value rest => rw [Items.bare, draftOfItems_surplus, draftOfItems_surplus]
      | _ => rfl
  | cons slot slots ih =>
      have ih := ih fun slot hslot => hblind slot (List.mem_cons_of_mem _ hslot)
      cases items with
      | item value rest =>
          simp only [Items.bare, draftOfItems_item, ih,
            hblind slot List.mem_cons_self draft value]
      | closed stop =>
          have hclosed := ih (index + 1) draft (.closed stop)
          rw [Items.bare] at hclosed
          rw [Items.bare, draftOfItems_closed, draftOfItems_closed, hclosed]
      | broken => rfl

end Blind

/-- A record is read blindly if each of its fields is. -/
theorem blind_decode (form : RecordForm σ α)
    (hblind : ∀ slot ∈ form.slots, ∀ draft, (slot.fill draft).Blind) : form.decode.Blind := by
  intro doc
  cases doc with
  | array items start =>
      rw [Doc.bare, toOption_decode_array, toOption_decode_array, draftOfItems_bare hblind]
  | object members start =>
      rw [Doc.bare, toOption_decode_object, toOption_decode_object, draftOfMembers_bare hblind]
  | _ => rfl

end RecordForm

end Preflight
