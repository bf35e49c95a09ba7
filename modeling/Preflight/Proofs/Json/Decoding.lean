import Preflight.Json.Decode

/-!
# Decoders on documents without faults

A document keeps what its text looked like: the places of its parts and the
faults in it. A decoder may answer differently for two documents of one value,
but only in its errors. `Decoder.Reads` says that it gives one and the same answer
for every document that has the value. Decoders are made of others, and so are the
proofs that they read what they should.

A record is read off an object by filling its slots, each by the member of its
name. `RecordForm.Fills` follows the members in their order, from one draft to the
next.

## Main results

* `RecordForm.reads_decode` — a record is read off an object whose members fill its slots.
-/

namespace Preflight

/-! ## What a document holds -/

namespace Doc

/-- The shape of a document without faults that holds a value. -/
inductive Holds : Doc → Json → Prop
  | null (start stop : Spot) : Holds (.null start stop) .null
  | bool (b : Bool) (start stop : Spot) : Holds (.bool b start stop) (.bool b)
  | number (n : JsonNumber) (start stop : Spot) : Holds (.number (.ok n) start stop) (.number n)
  | string (s : String) (start stop : Spot) : Holds (.string (.ok s) start stop) (.string s)
  | array {items : Items} {vs : List Json} (start : Spot) (h : itemsToJson items = .ok vs) :
      Holds (.array items start) (.array vs)
  | object {members : Members} {ms : List (String × Json)} (start : Spot)
      (h : membersToJson members = .ok ms) : Holds (.object members start) (.object ms)

theorem holds_of_toJson {doc : Doc} {v : Json} (h : doc.toJson = .ok v) : doc.Holds v := by
  cases doc with
  | null start stop => cases h; exact .null start stop
  | bool b start stop => cases h; exact .bool b start stop
  | number value start stop =>
      cases value with
      | error e => cases h
      | ok n => cases h; exact .number n start stop
  | string value start stop =>
      cases value with
      | error e => cases h
      | ok s => cases h; exact .string s start stop
  | array items start =>
      cases hitems : itemsToJson items with
      | error e => rw [toJson, hitems] at h; cases h
      | ok vs => rw [toJson, hitems] at h; cases h; exact .array start hitems
  | object members start =>
      cases hmembers : membersToJson members with
      | error e => rw [toJson, hmembers] at h; cases h
      | ok ms => rw [toJson, hmembers] at h; cases h; exact .object start hmembers
  | broken => cases h

/-- The items of an array without faults. -/
theorem itemsToJson_cons {value : Doc} {rest : Items} {vs : List Json}
    (h : itemsToJson (.item value rest) = .ok vs) :
    ∃ v ws, vs = v :: ws ∧ value.toJson = .ok v ∧ itemsToJson rest = .ok ws := by
  rw [itemsToJson] at h
  cases hvalue : value.toJson with
  | error e => rw [hvalue] at h; cases h
  | ok v =>
      cases hrest : itemsToJson rest with
      | error e => rw [hvalue, hrest] at h; cases h
      | ok ws => rw [hvalue, hrest] at h; cases h; exact ⟨v, ws, rfl, rfl, rfl⟩

theorem membersToJson_cons {key : Key} {value : Doc} {after : Spot} {rest : Members}
    {ms : List (String × Json)} (h : membersToJson (.member key value after rest) = .ok ms) :
    ∃ name v ns, ms = (name, v) :: ns ∧ key.name = .ok name ∧ value.toJson = .ok v ∧
      membersToJson rest = .ok ns := by
  rw [membersToJson] at h
  cases hname : key.name with
  | error e => rw [hname] at h; cases h
  | ok name =>
      cases hvalue : value.toJson with
      | error e => rw [hname, hvalue] at h; cases h
      | ok v =>
          cases hrest : membersToJson rest with
          | error e => rw [hname, hvalue, hrest] at h; cases h
          | ok ns =>
              rw [hname, hvalue, hrest] at h
              cases h
              exact ⟨name, v, ns, rfl, rfl, rfl, rfl⟩

mutual

/-- A document that was made from a value holds the value. -/
theorem toJson_ofJson : ∀ v : Json, (ofJson v).toJson = .ok v
  | .null => rfl
  | .bool _ => rfl
  | .number _ => rfl
  | .string _ => rfl
  | .array items => by
      rw [ofJson, toJson, itemsToJson_itemsOfJson items]
      rfl
  | .object members => by
      rw [ofJson, toJson, membersToJson_membersOfJson members]
      rfl

theorem itemsToJson_itemsOfJson :
    ∀ vs : List Json, itemsToJson (itemsOfJson vs) = .ok vs
  | [] => rfl
  | v :: vs => by
      simp only [itemsOfJson, itemsToJson, toJson_ofJson v,
        itemsToJson_itemsOfJson vs, Except.map]

theorem membersToJson_membersOfJson :
    ∀ ms : List (String × Json), membersToJson (membersOfJson ms) = .ok ms
  | [] => rfl
  | (name, v) :: ms => by
      simp only [membersOfJson, membersToJson, toJson_ofJson v,
        membersToJson_membersOfJson ms, Except.map]

end

end Doc

/-! ## Decoders -/

namespace Decoder

variable {α : Type}

/-- A decoder gives `x` for every document that holds the value. -/
def Reads (decode : Decoder α) (v : Json) (x : α) : Prop :=
  ∀ doc : Doc, doc.toJson = .ok v → decode doc = .ok x

theorem reads_string (s : String) : Reads string (.string s) s := by
  intro doc h
  cases doc.holds_of_toJson h with
  | string => rfl

theorem reads_ofString {expected : String} {read : String → Except DecodeCause α} {s : String}
    {x : α} (hread : read s = .ok x) : Reads (ofString expected read) (.string s) x := by
  intro doc h
  cases doc.holds_of_toJson h with
  | string => simp [ofString, hread]

theorem reads_word (n : Nat) : Reads word (.ofNat n) n := by
  intro doc h
  cases doc.holds_of_toJson h with
  | number => rfl

theorem reads_choice {known : List (String × α)} {name : String} {x : α}
    (hknown : known.lookup name = some x) : Reads (choice known) (.string name) x := by
  intro doc h
  cases doc.holds_of_toJson h with
  | string => simp [choice, choose, hknown]

theorem reads_optional_none (decode : Decoder α) : Reads (optional decode) .null none := by
  intro doc h
  cases doc.holds_of_toJson h with
  | null => rfl

theorem reads_optional_some {decode : Decoder α} {s : String} {x : α}
    (hdecode : Reads decode (.string s) x) : Reads (optional decode) (.string s) (some x) := by
  intro doc h
  have hx := hdecode doc h
  cases doc.holds_of_toJson h with
  | string => simp [optional, hx, Except.map]

theorem items_of_reads {encode : α → Json} {decode : Decoder α} {xs : List α} {list : Items}
    (hreads : ∀ x ∈ xs, Reads decode (encode x) x)
    (h : Doc.itemsToJson list = .ok (xs.map encode)) : items decode list = .ok xs := by
  induction xs generalizing list with
  | nil =>
      cases list with
      | item value rest =>
          obtain ⟨_, _, hcons, _⟩ := Doc.itemsToJson_cons h
          cases hcons
      | closed => rfl
      | broken => cases h
  | cons x xs ih =>
      cases list with
      | item value rest =>
          obtain ⟨_, _, hcons, hvalue, hrest⟩ := Doc.itemsToJson_cons h
          cases hcons
          have hx := hreads x List.mem_cons_self value hvalue
          have hxs := ih (fun y hy => hreads y (List.mem_cons_of_mem _ hy)) hrest
          simp [items, hx, hxs, Except.map]
      | closed => cases h
      | broken => cases h

theorem reads_list {encode : α → Json} {decode : Decoder α} {xs : List α}
    (hreads : ∀ x ∈ xs, Reads decode (encode x) x) :
    Reads (list decode) (.array (xs.map encode)) xs := by
  intro doc h
  cases doc.holds_of_toJson h with
  | array start hitems => exact items_of_reads hreads hitems

theorem Reads.map {β : Type} {decode : Decoder α} {v : Json} {x : α} (h : Reads decode v x)
    (f : α → β) : Reads (fun doc => (decode doc).map f) v (f x) := by
  intro doc hdoc
  simp only [h doc hdoc, Except.map]

end Decoder

/-! ## Records -/

namespace RecordForm

variable {σ α : Type}

/-- Members that fill the slots of their names, one after the other. -/
inductive Fills (slots : List (Slot σ)) : σ → List (String × Json) → σ → Prop
  | done (draft : σ) : Fills slots draft [] draft
  | field {draft next final : σ} {slot : Slot σ} {name : String} {v : Json}
      {rest : List (String × Json)}
      (hslot : (slots.find? fun slot => slot.name = name) = some slot)
      (hempty : slot.filled draft = false) (hfill : Decoder.Reads (slot.fill draft) v next)
      (hrest : Fills slots next rest final) : Fills slots draft ((name, v) :: rest) final

theorem fillMembers_of_fills {slots : List (Slot σ)} {draft final : σ}
    {ms : List (String × Json)} (hfills : Fills slots draft ms final) {members : Members}
    (h : Doc.membersToJson members = .ok ms) :
    ∃ stop, fillMembers slots draft members = .ok (final, stop) := by
  induction hfills generalizing members with
  | done draft =>
      cases members with
      | member =>
          obtain ⟨_, _, _, hcons, _⟩ := Doc.membersToJson_cons h
          cases hcons
      | closed stop => exact ⟨stop, rfl⟩
      | broken => cases h
      | keyless => cases h
  | field hslot hempty hfill _ ih =>
      cases members with
      | member key value after rest =>
          obtain ⟨_, _, _, hcons, hname, hvalue, hrest⟩ := Doc.membersToJson_cons h
          cases hcons
          obtain ⟨stop, hread⟩ := ih hrest
          refine ⟨stop, ?_⟩
          simp [fillMembers, hname, hslot, hempty, hfill value hvalue, hread]
      | closed => cases h
      | broken => cases h
      | keyless => cases h

/-- A record is read off an object whose members fill its slots. -/
theorem reads_decode {form : RecordForm σ α} {ms : List (String × Json)} {draft : σ} {x : α}
    (hfills : Fills form.slots form.blank ms draft) (hfinish : form.finish draft = .ok x) :
    Decoder.Reads form.decode (.object ms) x := by
  intro doc h
  cases doc.holds_of_toJson h with
  | object start hmembers =>
      obtain ⟨stop, hread⟩ := fillMembers_of_fills hfills hmembers
      simp [decode, hread, Except.bind, complete, hfinish]

end RecordForm

end Preflight
