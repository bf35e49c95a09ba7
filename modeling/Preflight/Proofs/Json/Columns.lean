import Preflight.Proofs.Json.Fields
import Mathlib.Data.List.Nodup

/-!
# Records are read by the names of their fields

The reader of a record works with a draft that it fills on the way. A `Column` is a
field together with its place in the draft. The place is a lens: what is kept under
one name is there, and what is kept under the others stays (`RecordForm.Tabulates`).

What a run over the members leaves in a column follows by induction on them from
one invariant, `Column.Gains`: the column gains what stands under its name, which
is once at most, and only if it was empty before. Members under other names leave
it as it is, which is why their order does not matter.

An array is brought back to this. Its items go to the columns in turn, and that is
what the members do that carry the names of the columns in this order.

## Main results

* `RecordForm.Tabulates.readsFields` — a form that its columns tabulate reads its
  fields.
-/

namespace Preflight

/-! ## Columns -/

/-- A field of a record together with its place in the draft. -/
structure Column (σ α : Type) extends RecordField α where
  kept : σ → Option β
  keep : σ → β → σ

namespace Column

variable {σ α : Type}

/-- The slot of the reader. -/
def slot (column : Column σ α) : Slot σ where
  name := column.name
  filled := fun draft => (column.kept draft).isSome
  fill := fun draft doc => (column.decode doc).map (column.keep draft)

/-- What a column gains from the values under its name. -/
def Gains (column : Column σ α) (values : List Doc) (before after : Option column.β) : Prop :=
  match values with
  | [] => after = before
  | [value] => before = none ∧ ∃ x, column.decode value = .ok x ∧ after = some x
  | _ => False

theorem gains_cons_iff {column : Column σ α} {value : Doc} {values : List Doc}
    {before after : Option column.β} :
    column.Gains (value :: values) before after ↔
      before = none ∧ ∃ x, column.decode value = .ok x ∧ column.Gains values (some x) after := by
  cases values with
  | nil => rfl
  | cons value' values =>
      constructor
      · exact False.elim
      · rintro ⟨_, x, _, hgains⟩
        cases values with
        | nil => cases hgains.1
        | cons => exact hgains

/-- A column that was empty ends as what the values under its name give. -/
theorem Gains.or_missing_iff {column : Column σ α} {values : List Doc} {after : Option column.β}
    (h : column.Gains values none after) (x : column.β) :
    after.or column.missing = some x ↔ column.Gives values x := by
  match values, h with
  | [], h =>
      obtain rfl : after = none := h
      exact Iff.rfl
  | [value], ⟨_, y, hy, hafter⟩ =>
      rw [hafter, RecordField.Gives, hy]
      simp

theorem exists_gains_of_gives {column : Column σ α} {values : List Doc} {x : column.β}
    (h : column.Gives values x) : ∃ after, column.Gains values none after := by
  match values, h with
  | [], _ => exact ⟨none, rfl⟩
  | [_], h => exact ⟨some x, rfl, x, h, rfl⟩

end Column

/-- The columns of a form: a lens for each, an empty draft to begin with, and a record that has in
every field what the draft keeps for it, or what the field is if it is missing. -/
structure RecordForm.Tabulates {σ α : Type} (form : RecordForm σ α)
    (columns : List (Column σ α)) : Prop where
  slots : form.slots = columns.map Column.slot
  nodup : (columns.map (·.name)).Nodup
  kept_blank : ∀ column ∈ columns, column.kept form.blank = none
  kept_keep : ∀ column ∈ columns, ∀ draft x, column.kept (column.keep draft x) = some x
  kept_keep_of_ne : ∀ column ∈ columns, ∀ other ∈ columns, other.name ≠ column.name →
    ∀ draft x, other.kept (column.keep draft x) = other.kept draft
  finish_eq_ok_iff : ∀ draft x, form.finish draft = .ok x ↔
    ∀ column ∈ columns, (column.kept draft).or column.missing = some (column.get x)
  exists_finish : ∀ draft,
    (∀ column ∈ columns, ∃ x, (column.kept draft).or column.missing = some x) →
      ∃ x, form.finish draft = .ok x
  blind : ∀ column ∈ columns, column.decode.Blind

/-! ## Filling a draft -/

namespace RecordForm

variable {σ α : Type}

/-- The draft that a list of members leaves behind. -/
def draftOf (slots : List (Slot σ)) : σ → List (String × Doc) → Option σ
  | draft, [] => some draft
  | draft, (name, value) :: ms =>
      match slots.find? fun slot => slot.name = name with
      | none => draftOf slots draft ms
      | some slot =>
          if slot.filled draft then none
          else (slot.fill draft value).toOption.bind fun draft => draftOf slots draft ms

theorem draftOfMembers_eq {slots : List (Slot σ)} {members : Members} {ms : List (String × Doc)}
    (hlists : members.Lists ms) (draft : σ) :
    draftOfMembers slots draft members = draftOf slots draft ms := by
  induction hlists generalizing draft with
  | closed => rfl
  | @member key name value after rest ms hname hvalue _ ih =>
      rw [draftOfMembers_member, draftOf, hname, toOption_ok, Option.bind_some]
      cases slots.find? fun slot => slot.name = name with
      | none => simp only [hvalue, toOption_ok, Option.bind_some, ih]
      | some slot => simp only [ih]

/-- The record of a list of members. -/
def recordOf (form : RecordForm σ α) (ms : List (String × Doc)) : Option α :=
  (draftOf form.slots form.blank ms).bind fun draft => (form.finish draft).toOption

theorem decode_eq_ok_iff {form : RecordForm σ α} {doc : Doc} {ms : List (String × Doc)}
    (hdoc : doc.HasMembers ms) (x : α) :
    form.decode doc = .ok x ↔ form.recordOf ms = some x := by
  cases hdoc with
  | object start hlists =>
      rw [← toOption_eq_some_iff, toOption_decode_object, draftOfMembers_eq hlists, recordOf]

namespace Tabulates

variable {form : RecordForm σ α} {columns : List (Column σ α)} (h : form.Tabulates columns)
include h

theorem find?_slot {column : Column σ α} (hcolumn : column ∈ columns) :
    (form.slots.find? fun slot => slot.name = column.name) = some column.slot := by
  rw [h.slots, List.find?_map]
  have hfind : columns.find? ((fun slot => decide (slot.name = column.name)) ∘ Column.slot) =
      some column := by
    cases hfound : columns.find? ((fun slot => decide (slot.name = column.name)) ∘ Column.slot) with
    | none =>
        rw [List.find?_eq_none] at hfound
        exact absurd (decide_eq_true rfl) (hfound column hcolumn)
    | some other =>
        have hname : other.slot.name = column.name := by simpa using List.find?_some hfound
        have hother := List.mem_of_find?_eq_some hfound
        rw [List.inj_on_of_nodup_map h.nodup hother hcolumn hname]
  rw [hfind, Option.map_some]

/-- A member under the name of a column fills this column, if it is empty. -/
theorem draftOf_cons {column : Column σ α} (hcolumn : column ∈ columns) (draft : σ) (value : Doc)
    (ms : List (String × Doc)) :
    draftOf form.slots draft ((column.name, value) :: ms) =
      if (column.kept draft).isSome then none
      else (column.decode value).toOption.bind fun x =>
        draftOf form.slots (column.keep draft x) ms := by
  rw [draftOf, h.find?_slot hcolumn]
  dsimp only [Column.slot]
  rw [toOption_map, Option.bind_map]
  rfl

/-- A member that has the name of no column is passed over. -/
theorem draftOf_cons_of_unknown {name : String} (hname : ∀ column ∈ columns, column.name ≠ name)
    (draft : σ) (value : Doc) (ms : List (String × Doc)) :
    draftOf form.slots draft ((name, value) :: ms) = draftOf form.slots draft ms := by
  have hfind : (form.slots.find? fun slot => slot.name = name) = none := by
    rw [h.slots, List.find?_map, Option.map_eq_none_iff, List.find?_eq_none]
    exact fun column hcolumn hsame => hname column hcolumn (of_decide_eq_true hsame)
  rw [draftOf, hfind]

/-- What a column still has to gain once a member has filled one of them. -/
theorem gains_cons_keep_iff {column other : Column σ α} (hcolumn : column ∈ columns)
    (hother : other ∈ columns) {draft : σ} {value : Doc} {x : column.β}
    (hempty : column.kept draft = none) (hx : column.decode value = .ok x)
    (ms : List (String × Doc)) (after : Option other.β) :
    other.Gains (valuesUnder other.name ((column.name, value) :: ms)) (other.kept draft) after ↔
      other.Gains (valuesUnder other.name ms) (other.kept (column.keep draft x)) after := by
  by_cases hsame : other.name = column.name
  · obtain rfl := List.inj_on_of_nodup_map h.nodup hother hcolumn hsame
    rw [h.kept_keep other hother, valuesUnder_cons_self, Column.gains_cons_iff]
    constructor
    · rintro ⟨_, y, hy, hgains⟩
      obtain rfl := Except.ok.inj (hx.symm.trans hy)
      exact hgains
    · exact fun hgains => ⟨hempty, x, hx, hgains⟩
  · rw [h.kept_keep_of_ne column hcolumn other hother hsame,
      valuesUnder_cons_of_ne _ _ (Ne.symm hsame)]

/-- A run over members leaves in every column what it gains from the values under its name. -/
theorem gains_of_draftOf {draft final : σ} {ms : List (String × Doc)}
    (hfinal : draftOf form.slots draft ms = some final) :
    ∀ column ∈ columns,
      column.Gains (valuesUnder column.name ms) (column.kept draft) (column.kept final) := by
  induction ms generalizing draft with
  | nil =>
      obtain rfl : draft = final := Option.some.inj hfinal
      exact fun _ _ => rfl
  | cons member ms ih =>
      obtain ⟨name, value⟩ := member
      by_cases hname : ∃ column ∈ columns, column.name = name
      · obtain ⟨column, hcolumn, rfl⟩ := hname
        rw [h.draftOf_cons hcolumn] at hfinal
        split at hfinal
        · cases hfinal
        · rename_i hkept
          have hempty : column.kept draft = none := by simpa using hkept
          obtain ⟨x, hx, hrest⟩ := Option.bind_eq_some_iff.mp hfinal
          have hx := toOption_eq_some_iff.mp hx
          intro other hother
          exact (h.gains_cons_keep_iff hcolumn hother hempty hx ms _).mpr (ih hrest other hother)
      · have hunknown : ∀ column ∈ columns, column.name ≠ name :=
          fun column hcolumn heq => hname ⟨column, hcolumn, heq⟩
        rw [h.draftOf_cons_of_unknown hunknown] at hfinal
        intro column hcolumn
        rw [valuesUnder_cons_of_ne _ _ (Ne.symm (hunknown column hcolumn))]
        exact ih hfinal column hcolumn

/-- There is such a run if every column can gain what stands under its name. -/
theorem exists_draftOf {draft : σ} {ms : List (String × Doc)}
    (hgains : ∀ column ∈ columns,
      ∃ after, column.Gains (valuesUnder column.name ms) (column.kept draft) after) :
    ∃ final, draftOf form.slots draft ms = some final := by
  induction ms generalizing draft with
  | nil => exact ⟨draft, rfl⟩
  | cons member ms ih =>
      obtain ⟨name, value⟩ := member
      by_cases hname : ∃ column ∈ columns, column.name = name
      · obtain ⟨column, hcolumn, rfl⟩ := hname
        obtain ⟨after, hafter⟩ := hgains column hcolumn
        rw [valuesUnder_cons_self, Column.gains_cons_iff] at hafter
        obtain ⟨hempty, x, hx, _⟩ := hafter
        rw [h.draftOf_cons hcolumn, hempty, hx]
        apply ih
        intro other hother
        obtain ⟨after, hafter⟩ := hgains other hother
        exact ⟨after, (h.gains_cons_keep_iff hcolumn hother hempty hx ms after).mp hafter⟩
      · have hunknown : ∀ column ∈ columns, column.name ≠ name :=
          fun column hcolumn heq => hname ⟨column, hcolumn, heq⟩
        rw [h.draftOf_cons_of_unknown hunknown]
        apply ih
        intro column hcolumn
        rw [← valuesUnder_cons_of_ne value ms (Ne.symm (hunknown column hcolumn))]
        exact hgains column hcolumn

/-! ## Reading a record -/

theorem gives_of_recordOf {ms : List (String × Doc)} {x : α} (hx : form.recordOf ms = some x) :
    ∀ column ∈ columns, column.Gives (valuesUnder column.name ms) (column.get x) := by
  obtain ⟨draft, hdraft, hfinish⟩ := Option.bind_eq_some_iff.mp hx
  intro column hcolumn
  have hgains := h.gains_of_draftOf hdraft column hcolumn
  rw [h.kept_blank column hcolumn] at hgains
  rw [← hgains.or_missing_iff]
  exact (h.finish_eq_ok_iff draft x).mp (toOption_eq_some_iff.mp hfinish) column hcolumn

/-- The draft of members that give every column a value. -/
theorem exists_draft_of_gives {ms : List (String × Doc)}
    (hgives : ∀ column ∈ columns, ∃ x, column.Gives (valuesUnder column.name ms) x) :
    ∃ draft, draftOf form.slots form.blank ms = some draft ∧
      ∀ column ∈ columns, ∀ x,
        (column.kept draft).or column.missing = some x ↔
          column.Gives (valuesUnder column.name ms) x := by
  have hgains : ∀ column ∈ columns,
      ∃ after, column.Gains (valuesUnder column.name ms) (column.kept form.blank) after := by
    intro column hcolumn
    obtain ⟨x, hx⟩ := hgives column hcolumn
    rw [h.kept_blank column hcolumn]
    exact Column.exists_gains_of_gives hx
  obtain ⟨draft, hdraft⟩ := h.exists_draftOf hgains
  refine ⟨draft, hdraft, fun column hcolumn => ?_⟩
  have hfinal := h.gains_of_draftOf hdraft column hcolumn
  rw [h.kept_blank column hcolumn] at hfinal
  exact hfinal.or_missing_iff

theorem recordOf_eq_some_iff (ms : List (String × Doc)) (x : α) :
    form.recordOf ms = some x ↔
      ∀ column ∈ columns, column.Gives (valuesUnder column.name ms) (column.get x) := by
  refine ⟨h.gives_of_recordOf, fun hgives => ?_⟩
  obtain ⟨draft, hdraft, hkept⟩ :=
    h.exists_draft_of_gives fun column hcolumn => ⟨_, hgives column hcolumn⟩
  have hfinish := (h.finish_eq_ok_iff draft x).mpr fun column hcolumn =>
    (hkept column hcolumn _).mpr (hgives column hcolumn)
  rw [recordOf, hdraft, Option.bind_some, hfinish, toOption_ok]

theorem exists_recordOf_iff (ms : List (String × Doc)) :
    (∃ x, form.recordOf ms = some x) ↔
      ∀ column ∈ columns, ∃ x, column.Gives (valuesUnder column.name ms) x := by
  constructor
  · rintro ⟨x, hx⟩ column hcolumn
    exact ⟨_, h.gives_of_recordOf hx column hcolumn⟩
  · intro hgives
    obtain ⟨draft, hdraft, hkept⟩ := h.exists_draft_of_gives hgives
    obtain ⟨x, hx⟩ := h.exists_finish draft fun column hcolumn =>
      (hgives column hcolumn).imp fun x => (hkept column hcolumn x).mpr
    refine ⟨x, ?_⟩
    rw [recordOf, hdraft, Option.bind_some, hx, toOption_ok]

end Tabulates

/-! ## Arrays -/

theorem draftOfItems_slot (short : String) (column : Column σ α) (slots : List (Slot σ))
    (index : Nat) (draft : σ) (value : Doc) (rest : Items) :
    draftOfItems short (column.slot :: slots) index draft (.item value rest) =
      (column.decode value).toOption.bind fun x =>
        draftOfItems short slots (index + 1) (column.keep draft x) rest := by
  rw [draftOfItems_item, Column.slot, toOption_map, Option.bind_map]
  rfl

/-- Values in the order of their names stand under them one by one. -/
theorem forall_valuesUnder_zip_iff {columns : List (Column σ α)}
    (hnodup : (columns.map (·.name)).Nodup) {values : List Doc}
    (hcount : values.length = columns.length) (P : Column σ α → List Doc → Prop) :
    (∀ column ∈ columns,
        P column (valuesUnder column.name ((columns.map (·.name)).zip values))) ↔
      List.Forall₂ (fun column value => P column [value]) columns values := by
  induction columns generalizing values with
  | nil =>
      obtain rfl := List.length_eq_zero_iff.mp hcount
      simp
  | cons column columns ih =>
      obtain ⟨hfresh, hnodup⟩ := List.nodup_cons.mp hnodup
      match values, hcount with
      | value :: values, hcount =>
          have hhead : valuesUnder column.name ((columns.map (·.name)).zip values) = [] := by
            rw [valuesUnder_eq_nil_iff]
            intro hname
            obtain ⟨⟨name, other⟩, hmem, rfl⟩ := List.mem_map.mp hname
            exact hfresh (List.of_mem_zip hmem).1
          have hrest : ∀ other ∈ columns,
              valuesUnder other.name ((column.name, value) :: (columns.map (·.name)).zip values) =
                valuesUnder other.name ((columns.map (·.name)).zip values) := by
            intro other hother
            apply valuesUnder_cons_of_ne
            exact fun heq => hfresh (List.mem_map.mpr ⟨other, hother, heq.symm⟩)
          rw [List.forall₂_cons, ← ih hnodup (Nat.succ.inj hcount), List.forall_mem_cons,
            List.map_cons, List.zip_cons_cons, valuesUnder_cons_self, hhead]
          exact and_congr_right fun _ => forall₂_congr fun other hother => by
            rw [hrest other hother]

namespace Tabulates

variable {form : RecordForm σ α} {columns : List (Column σ α)} (h : form.Tabulates columns)
include h

/-- The columns from some place on take their values from the items one after the other, as they
would from members of their names. -/
theorem draftOfItems_eq {items : Items} {values : List Doc} (hlists : items.Lists values)
    (short : String) {rest : List (Column σ α)} (hrest : rest ⊆ columns)
    (hnodup : (rest.map (·.name)).Nodup) (index : Nat) {draft : σ}
    (hempty : ∀ column ∈ rest, column.kept draft = none) :
    draftOfItems short (rest.map Column.slot) index draft items =
      if values.length = rest.length then
        draftOf form.slots draft ((rest.map (·.name)).zip values)
      else none := by
  induction rest generalizing items values index draft with
  | nil =>
      cases hlists with
      | closed stop => rfl
      | item _ _ => exact draftOfItems_surplus ..
  | cons column rest ih =>
      cases hlists with
      | closed stop => exact draftOfItems_closed ..
      | @item value tail values _ hlists =>
          have hcolumn : column ∈ columns := hrest List.mem_cons_self
          have hothers : rest ⊆ columns := fun _ hother => hrest (List.mem_cons_of_mem _ hother)
          obtain ⟨hfresh, hnodup⟩ := List.nodup_cons.mp hnodup
          have hempty' : ∀ x, ∀ other ∈ rest, other.kept (column.keep draft x) = none := by
            intro x other hother
            have hne : other.name ≠ column.name :=
              fun heq => hfresh (List.mem_map.mpr ⟨other, hother, heq⟩)
            rw [h.kept_keep_of_ne column hcolumn other (hothers hother) hne]
            exact hempty other (List.mem_cons_of_mem _ hother)
          have hstep := fun x => ih hlists hothers hnodup (index + 1) (hempty' x)
          rw [List.map_cons, List.map_cons, draftOfItems_slot, List.zip_cons_cons,
            h.draftOf_cons hcolumn, hempty column List.mem_cons_self]
          by_cases hcount : values.length = rest.length
          · simp [hcount, hstep]
          · simp [hcount, hstep]

/-- An array is read as the object that gives each item the name in its place. -/
theorem decode_items_eq_ok_iff {doc : Doc} {values : List Doc} (hdoc : doc.HasItems values)
    (x : α) :
    form.decode doc = .ok x ↔
      values.length = columns.length ∧
        form.recordOf ((columns.map (·.name)).zip values) = some x := by
  cases hdoc with
  | array start hlists =>
      rw [← toOption_eq_some_iff, toOption_decode_array, h.slots,
        h.draftOfItems_eq hlists _ (List.Subset.refl columns) h.nodup 0 h.kept_blank, recordOf]
      by_cases hcount : values.length = columns.length
      · simp [hcount]
      · simp [hcount]

theorem recordOf_congr {ms ms' : List (String × Doc)}
    (hsame : (knownMembers (columns.map Column.toRecordField) ms).Perm
      (knownMembers (columns.map Column.toRecordField) ms')) (x : α) :
    form.recordOf ms = some x ↔ form.recordOf ms' = some x := by
  rw [h.recordOf_eq_some_iff, h.recordOf_eq_some_iff]
  refine forall₂_congr fun column hcolumn => ?_
  apply RecordField.gives_congr (h.blind column hcolumn)
  have hname : column.name ∈ (columns.map Column.toRecordField).map RecordField.name := by
    rw [List.map_map]
    exact List.mem_map_of_mem hcolumn
  rw [← valuesUnder_knownMembers _ _ hname, ← valuesUnder_knownMembers _ _ hname]
  exact (hsame.filter _).map _

theorem exists_decode_items_iff {doc : Doc} {values : List Doc} (hdoc : doc.HasItems values) :
    (∃ x, form.decode doc = .ok x) ↔
      List.Forall₂ (fun column value => column.Accepts value) columns values := by
  simp only [h.decode_items_eq_ok_iff hdoc, exists_and_left, h.exists_recordOf_iff]
  constructor
  · rintro ⟨hcount, hgives⟩
    exact (forall_valuesUnder_zip_iff h.nodup hcount
      fun column values => ∃ x, column.Gives values x).mp hgives
  · intro haccepts
    have hcount := haccepts.length_eq.symm
    exact ⟨hcount, (forall_valuesUnder_zip_iff h.nodup hcount
      fun column values => ∃ x, column.Gives values x).mpr haccepts⟩

theorem blind_decode : form.decode.Blind := by
  apply RecordForm.blind_decode
  rw [h.slots, List.forall_mem_map]
  exact fun column hcolumn draft => (h.blind column hcolumn).map (column.keep draft)

/-- **A form that its columns tabulate reads its fields.** -/
theorem readsFields : form.decode.ReadsFields (columns.map Column.toRecordField) where
  members hdoc x := by
    rw [decode_eq_ok_iff hdoc, h.recordOf_eq_some_iff, List.forall_mem_map]
  accepts_members hdoc := by
    simp only [decode_eq_ok_iff hdoc, h.exists_recordOf_iff, List.forall_mem_map,
      RecordField.exists_gives_iff_fits]
  unordered hdoc hdoc' hsame x := by
    rw [decode_eq_ok_iff hdoc, decode_eq_ok_iff hdoc', h.recordOf_congr hsame]
  accepts_items hdoc := by
    rw [h.exists_decode_items_iff hdoc, List.forall₂_map_left_iff]
  items hdoc hcount hdoc' hsame x := by
    rw [List.length_map] at hcount
    rw [List.map_map] at hsame
    rw [h.decode_items_eq_ok_iff hdoc, decode_eq_ok_iff hdoc', ← h.recordOf_congr hsame]
    exact and_iff_right hcount

end Tabulates

end RecordForm

end Preflight
