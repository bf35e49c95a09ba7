import Preflight.Proofs.Json.Places
import Mathlib.Data.List.Forall2

/-!
# Records with named fields

What a record is read as should depend on which member stands under which name, and
on nothing else: not on the order of the members, not on members of other names,
not on places. An array of the fields in their order should be read as the object
that gives each item its name. `Decoder.ReadsFields` says so for a decoder and a
table of fields, and says what every field of the record is.

It speaks of documents without faults (`Doc.HasMembers`, `Doc.HasItems`): their
names can be read, and their values can be skipped. A value under a name that
nobody asked for needs no more. A document that has a JSON value is one of these,
and for such documents the order of members can be told from the values alone.

## Main results

* `RecordField.exists_gives_iff_fits` — when the members of an object are enough for
  a field.
* `Decoder.ReadsFields.reads_object`, `Decoder.ReadsFields.reads_array` — the same
  value is read off every document of members that agree.
-/

namespace Preflight

/-! ## Documents without faults -/

/-- The members of an object to its end: their names can be read and their values are without
fault. -/
inductive Members.Lists : Members → List (String × Doc) → Prop
  | closed (stop : Spot) : Lists (.closed stop) []
  | member {key : Key} {name : String} {value : Doc} (after : Spot) {rest : Members}
      {ms : List (String × Doc)} (hname : key.name = .ok name) (hvalue : value.skip = .ok ())
      (hrest : Lists rest ms) : Lists (.member key value after rest) ((name, value) :: ms)

/-- The items of an array to its end, which are without fault. -/
inductive Items.Lists : Items → List Doc → Prop
  | closed (stop : Spot) : Lists (.closed stop) []
  | item {value : Doc} {rest : Items} {values : List Doc} (hvalue : value.skip = .ok ())
      (hrest : Lists rest values) : Lists (.item value rest) (value :: values)

/-- A document is an object with these members. -/
inductive Doc.HasMembers : Doc → List (String × Doc) → Prop
  | object {members : Members} {ms : List (String × Doc)} (start : Spot)
      (hlists : members.Lists ms) : HasMembers (.object members start) ms

/-- A document is an array with these items. -/
inductive Doc.HasItems : Doc → List Doc → Prop
  | array {items : Items} {values : List Doc} (start : Spot) (hlists : items.Lists values) :
      HasItems (.array items start) values

/-- The values under a name. -/
def valuesUnder (name : String) (ms : List (String × Doc)) : List Doc :=
  (ms.filter fun member => member.1 = name).map Prod.snd

/-! ## Fields -/

/-- A field of a record as its documents have it. -/
structure RecordField (α : Type) where
  name : String
  {β : Type}
  /-- The reader of its values. -/
  decode : Decoder β
  /-- The field in the record. -/
  get : α → β
  /-- What the field is if it is missing; a field without it has to be there. -/
  missing : Option β

namespace RecordField

variable {α β : Type}

/-- A field that has to be there. -/
def required (name : String) (decode : Decoder β) (get : α → β) : RecordField α :=
  ⟨name, decode, get, none⟩

/-- A field that may be `null`, or missing. -/
def optional (name : String) (decode : Decoder β) (get : α → Option β) : RecordField α :=
  ⟨name, Decoder.optional decode, get, some none⟩

/-- A value is accepted for a field. -/
def Accepts (field : RecordField α) (value : Doc) : Prop :=
  ∃ x, field.decode value = .ok x

/-- The members fit a field: its name is there at most once, and once if it is required, and
what stands under it is accepted. -/
structure Fits (field : RecordField α) (ms : List (String × Doc)) : Prop where
  unique : (ms.map Prod.fst).count field.name ≤ 1
  present : field.missing = none → field.name ∈ ms.map Prod.fst
  accepted : ∀ value, (field.name, value) ∈ ms → field.Accepts value

/-- What a field is, given the values under its name. -/
def Gives (field : RecordField α) (values : List Doc) (x : field.β) : Prop :=
  match values with
  | [] => field.missing = some x
  | [value] => field.decode value = .ok x
  | _ => False

end RecordField

/-- The members that have the name of a field, without their places. -/
def knownMembers {α : Type} (fields : List (RecordField α)) (ms : List (String × Doc)) :
    List (String × Doc) :=
  (ms.map fun member => (member.1, member.2.bare)).filter fun member =>
    member.1 ∈ fields.map RecordField.name

/-- A decoder reads a record by the names of its fields. -/
structure Decoder.ReadsFields {α : Type} (decode : Decoder α) (fields : List (RecordField α)) :
    Prop where
  /-- Every field of the record is what stands under its name. -/
  members {doc : Doc} {ms : List (String × Doc)} (hdoc : doc.HasMembers ms) (x : α) :
    decode doc = .ok x ↔
      ∀ field ∈ fields, field.Gives (valuesUnder field.name ms) (field.get x)
  /-- An object is accepted exactly if its members fit every field. -/
  accepts_members {doc : Doc} {ms : List (String × Doc)} (hdoc : doc.HasMembers ms) :
    (∃ x, decode doc = .ok x) ↔ ∀ field ∈ fields, field.Fits ms
  /-- The order of the members does not matter, nor do places and members of other names. -/
  unordered {doc doc' : Doc} {ms ms' : List (String × Doc)} (hdoc : doc.HasMembers ms)
    (hdoc' : doc'.HasMembers ms') (hsame : (knownMembers fields ms).Perm (knownMembers fields ms'))
    (x : α) : decode doc = .ok x ↔ decode doc' = .ok x
  /-- An array is accepted exactly if it has one item for each field, accepted for it. -/
  accepts_items {doc : Doc} {values : List Doc} (hdoc : doc.HasItems values) :
    (∃ x, decode doc = .ok x) ↔ List.Forall₂ RecordField.Accepts fields values
  /-- An array of one item for each field is read as the object with those members. -/
  items {doc doc' : Doc} {values : List Doc} {ms : List (String × Doc)}
    (hdoc : doc.HasItems values) (hcount : values.length = fields.length)
    (hdoc' : doc'.HasMembers ms)
    (hsame : (knownMembers fields ((fields.map RecordField.name).zip values)).Perm
      (knownMembers fields ms)) (x : α) : decode doc = .ok x ↔ decode doc' = .ok x

/-! ## Values under names -/

section Values

variable (name : String) (value : Doc) (ms : List (String × Doc))

@[simp] theorem valuesUnder_cons_self :
    valuesUnder name ((name, value) :: ms) = value :: valuesUnder name ms := by
  simp [valuesUnder]

theorem valuesUnder_cons_of_ne {name other : String} (h : other ≠ name) :
    valuesUnder name ((other, value) :: ms) = valuesUnder name ms := by
  simp [valuesUnder, h]

theorem mem_valuesUnder : value ∈ valuesUnder name ms ↔ (name, value) ∈ ms := by
  simp [valuesUnder]

theorem length_valuesUnder :
    (valuesUnder name ms).length = (ms.map Prod.fst).count name := by
  rw [valuesUnder, List.length_map, ← List.countP_eq_length_filter, List.count, List.countP_map]
  rfl

theorem valuesUnder_eq_nil_iff : valuesUnder name ms = [] ↔ name ∉ ms.map Prod.fst := by
  rw [← List.length_eq_zero_iff, length_valuesUnder, List.count_eq_zero]

/-- The members of known names say all that there is to say under each of these. -/
theorem valuesUnder_knownMembers {α : Type} {fields : List (RecordField α)}
    (hname : name ∈ fields.map RecordField.name) :
    valuesUnder name (knownMembers fields ms) = (valuesUnder name ms).map Doc.bare := by
  have hknown : ∀ member : String × Doc,
      (decide (member.1 = name) && decide (member.1 ∈ fields.map RecordField.name)) =
        decide (member.1 = name) := by
    intro member
    by_cases h : member.1 = name
    · rw [h, decide_eq_true hname, Bool.and_true]
    · rw [decide_eq_false h, Bool.false_and]
  rw [valuesUnder, knownMembers, List.filter_filter, funext hknown, List.filter_map, List.map_map,
    valuesUnder, List.map_map]
  rfl

end Values

namespace RecordField

variable {α : Type} {field : RecordField α}

theorem fits_iff {ms : List (String × Doc)} :
    field.Fits ms ↔
      (valuesUnder field.name ms).length ≤ 1 ∧
        (field.missing = none → valuesUnder field.name ms ≠ []) ∧
        ∀ value ∈ valuesUnder field.name ms, field.Accepts value := by
  simp only [length_valuesUnder, ne_eq, valuesUnder_eq_nil_iff, mem_valuesUnder, not_not]
  exact ⟨fun h => ⟨h.unique, h.present, h.accepted⟩, fun h => ⟨h.1, h.2.1, h.2.2⟩⟩

/-- Members that fit a field give it a value, and no others do. -/
theorem exists_gives_iff_fits {ms : List (String × Doc)} :
    (∃ x, field.Gives (valuesUnder field.name ms) x) ↔ field.Fits ms := by
  rw [fits_iff]
  match valuesUnder field.name ms with
  | [] =>
      simp [Gives, ← Option.isSome_iff_exists, Option.isSome_iff_ne_none]
  | [value] => simp [Gives, Accepts]
  | _ :: _ :: _ => simp [Gives]

/-- What a field is does not depend on places, nor on the order of what has its name. -/
theorem gives_congr (hblind : field.decode.Blind) {values values' : List Doc}
    (hsame : (values.map Doc.bare).Perm (values'.map Doc.bare)) (x : field.β) :
    field.Gives values x ↔ field.Gives values' x := by
  have hlength := hsame.length_eq
  match values, values' with
  | [], [] => exact Iff.rfl
  | [value], [value'] =>
      have hbare : value.bare = value'.bare := by simpa using hsame
      exact hblind.eq_ok_iff hbare x
  | _ :: _ :: _, _ :: _ :: _ => exact Iff.rfl
  | [], _ :: _ => simp at hlength
  | _ :: _, [] => simp at hlength
  | [_], _ :: _ :: _ => simp at hlength
  | _ :: _ :: _, [_] => simp at hlength

end RecordField

/-! ## Documents of known values -/

namespace Doc

mutual

/-- A document without faults is skipped, and all that it says besides its places is its value. -/
theorem skip_and_bare_of_toJson :
    ∀ (doc : Doc) {v : Json}, doc.toJson = .ok v → doc.skip = .ok () ∧ doc.bare = ofJson v
  | .null _ _, _, h => by cases h; exact ⟨rfl, rfl⟩
  | .bool _ _ _, _, h => by cases h; exact ⟨rfl, rfl⟩
  | .number value start stop, _, h => by
      cases holds_of_toJson h with
      | number n => exact ⟨rfl, rfl⟩
  | .string value start stop, _, h => by
      cases holds_of_toJson h with
      | string s => exact ⟨rfl, rfl⟩
  | .array items start, _, h => by
      cases holds_of_toJson h with
      | array _ hitems =>
          obtain ⟨hskip, hbare⟩ := skip_and_bare_of_itemsToJson items hitems
          exact ⟨hskip, by rw [Doc.bare, hbare, ofJson]⟩
  | .object members start, _, h => by
      cases holds_of_toJson h with
      | object _ hmembers =>
          obtain ⟨hskip, hbare⟩ := skip_and_bare_of_membersToJson members hmembers
          exact ⟨hskip, by rw [Doc.bare, hbare, ofJson]⟩
  | .broken _ _ _, _, h => by cases h

theorem skip_and_bare_of_itemsToJson :
    ∀ (items : Items) {vs : List Json}, itemsToJson items = .ok vs →
      skipItems items = .ok () ∧ items.bare = itemsOfJson vs
  | .item value rest, _, h => by
      obtain ⟨v, ws, rfl, hvalue, hrest⟩ := itemsToJson_cons h
      obtain ⟨hskip, hbare⟩ := skip_and_bare_of_toJson value hvalue
      obtain ⟨hskips, hbares⟩ := skip_and_bare_of_itemsToJson rest hrest
      refine ⟨?_, by rw [Items.bare, hbare, hbares, itemsOfJson]⟩
      rw [skipItems, hskip]
      exact hskips
  | .closed _, _, h => by cases h; exact ⟨rfl, rfl⟩
  | .broken _ _, _, h => by cases h

theorem skip_and_bare_of_membersToJson :
    ∀ (members : Members) {vs : List (String × Json)}, membersToJson members = .ok vs →
      skipMembers members = .ok () ∧ members.bare = membersOfJson vs
  | .member key value after rest, _, h => by
      obtain ⟨name, v, ws, rfl, hname, hvalue, hrest⟩ := membersToJson_cons h
      obtain ⟨hskip, hbare⟩ := skip_and_bare_of_toJson value hvalue
      obtain ⟨hskips, hbares⟩ := skip_and_bare_of_membersToJson rest hrest
      refine ⟨?_, by rw [Members.bare, Key.bare, hname, hbare, hbares, membersOfJson]; rfl⟩
      rw [skipMembers, hskip]
      exact hskips
  | .closed _, _, h => by cases h; exact ⟨rfl, rfl⟩
  | .broken _, _, h => by cases h
  | .keyless _ _, _, h => by cases h

end

end Doc

theorem Members.exists_lists :
    ∀ (members : Members) {vs : List (String × Json)}, Doc.membersToJson members = .ok vs →
      ∃ ms, members.Lists ms ∧
        (ms.map fun member => (member.1, member.2.bare)) = vs.map fun v => (v.1, Doc.ofJson v.2)
  | .member key value after rest, _, h => by
      obtain ⟨name, v, ws, rfl, hname, hvalue, hrest⟩ := Doc.membersToJson_cons h
      obtain ⟨hskip, hbare⟩ := value.skip_and_bare_of_toJson hvalue
      obtain ⟨ms, hlists, hms⟩ := Members.exists_lists rest hrest
      exact ⟨(name, value) :: ms, .member after hname hskip hlists, by simp [hbare, hms]⟩
  | .closed stop, _, h => by cases h; exact ⟨[], .closed stop, rfl⟩
  | .broken _, _, h => by cases h
  | .keyless _ _, _, h => by cases h

theorem Items.exists_lists :
    ∀ (items : Items) {vs : List Json}, Doc.itemsToJson items = .ok vs →
      ∃ values, items.Lists values ∧ values.map Doc.bare = vs.map Doc.ofJson
  | .item value rest, _, h => by
      obtain ⟨v, ws, rfl, hvalue, hrest⟩ := Doc.itemsToJson_cons h
      obtain ⟨hskip, hbare⟩ := value.skip_and_bare_of_toJson hvalue
      obtain ⟨values, hlists, hvalues⟩ := Items.exists_lists rest hrest
      exact ⟨value :: values, .item hskip hlists, by simp [hbare, hvalues]⟩
  | .closed stop, _, h => by cases h; exact ⟨[], .closed stop, rfl⟩
  | .broken _ _, _, h => by cases h

theorem Doc.exists_hasMembers {doc : Doc} {vs : List (String × Json)}
    (h : doc.toJson = .ok (.object vs)) :
    ∃ ms, doc.HasMembers ms ∧
      (ms.map fun member => (member.1, member.2.bare)) = vs.map fun v => (v.1, ofJson v.2) := by
  cases doc.holds_of_toJson h with
  | object start hmembers =>
      obtain ⟨ms, hlists, hms⟩ := Members.exists_lists _ hmembers
      exact ⟨ms, .object start hlists, hms⟩

theorem Doc.exists_hasItems {doc : Doc} {vs : List Json} (h : doc.toJson = .ok (.array vs)) :
    ∃ values, doc.HasItems values ∧ values.map Doc.bare = vs.map ofJson := by
  cases doc.holds_of_toJson h with
  | array start hitems =>
      obtain ⟨values, hlists, hvalues⟩ := Items.exists_lists _ hitems
      exact ⟨values, .array start hlists, hvalues⟩

/-- The members of an object that have the name of a field. -/
def knownValues {α : Type} (fields : List (RecordField α)) (vs : List (String × Json)) :
    List (String × Json) :=
  vs.filter fun v => v.1 ∈ fields.map RecordField.name

namespace Decoder.ReadsFields

variable {α : Type} {decode : Decoder α} {fields : List (RecordField α)}

theorem knownMembers_eq {ms : List (String × Doc)} {vs : List (String × Json)}
    (h : (ms.map fun member => (member.1, member.2.bare)) = vs.map fun v => (v.1, Doc.ofJson v.2)) :
    knownMembers fields ms = (knownValues fields vs).map fun v => (v.1, Doc.ofJson v.2) := by
  rw [knownMembers, h, knownValues, List.filter_map]
  rfl

variable (h : decode.ReadsFields fields)
include h

/-- Two documents of objects that agree on the names of the fields are read as the same. -/
theorem unordered_of_toJson {doc doc' : Doc} {vs vs' : List (String × Json)}
    (hdoc : doc.toJson = .ok (.object vs)) (hdoc' : doc'.toJson = .ok (.object vs'))
    (hsame : (knownValues fields vs).Perm (knownValues fields vs')) (x : α) :
    decode doc = .ok x ↔ decode doc' = .ok x := by
  obtain ⟨ms, hms, hbare⟩ := Doc.exists_hasMembers hdoc
  obtain ⟨ms', hms', hbare'⟩ := Doc.exists_hasMembers hdoc'
  apply h.unordered hms hms'
  rw [knownMembers_eq hbare, knownMembers_eq hbare']
  exact hsame.map _

/-- The document of an array of all fields is read as the document of the object with them. -/
theorem items_of_toJson {doc doc' : Doc} {vs : List Json} {vs' : List (String × Json)}
    (hdoc : doc.toJson = .ok (.array vs)) (hcount : vs.length = fields.length)
    (hdoc' : doc'.toJson = .ok (.object vs'))
    (hsame : (knownValues fields ((fields.map RecordField.name).zip vs)).Perm
      (knownValues fields vs')) (x : α) :
    decode doc = .ok x ↔ decode doc' = .ok x := by
  obtain ⟨values, hvalues, hbare⟩ := Doc.exists_hasItems hdoc
  obtain ⟨ms', hms', hbare'⟩ := Doc.exists_hasMembers hdoc'
  have hlength : values.length = vs.length := by
    simpa using congrArg List.length hbare
  apply h.items hvalues (hlength.trans hcount) hms'
  have hzip : ((fields.map RecordField.name).zip values).map (Prod.map id Doc.bare) =
      ((fields.map RecordField.name).zip vs).map (Prod.map id Doc.ofJson) := by
    rw [← List.zip_map_right, hbare, List.zip_map_right]
  rw [knownMembers_eq hzip, knownMembers_eq hbare']
  exact hsame.map _

/-- An object is read as another that agrees with it on the names of the fields. -/
theorem reads_object {vs vs' : List (String × Json)}
    (hsame : (knownValues fields vs).Perm (knownValues fields vs')) {x : α}
    (hreads : Reads decode (.object vs') x) : Reads decode (.object vs) x := by
  intro doc hdoc
  have hother := Doc.toJson_ofJson (.object vs')
  exact (h.unordered_of_toJson hdoc hother hsame x).mpr (hreads _ hother)

/-- An array of all fields is read as the object with them. -/
theorem reads_array {vs : List Json} {vs' : List (String × Json)}
    (hcount : vs.length = fields.length)
    (hsame : (knownValues fields ((fields.map RecordField.name).zip vs)).Perm
      (knownValues fields vs')) {x : α}
    (hreads : Reads decode (.object vs') x) : Reads decode (.array vs) x := by
  intro doc hdoc
  have hother := Doc.toJson_ofJson (.object vs')
  exact (h.items_of_toJson hdoc hcount hother hsame x).mpr (hreads _ hother)

end Decoder.ReadsFields

end Preflight
