import Preflight.Proofs.Json.Fields
import Preflight.Proofs.Json.Spelling

/-!
# Values whose objects are maps

A value that is kept with its objects as maps is written with the members of each
object in the order of their names (`Json.sorted`). If no name occurs twice, this
only changes the order of the members (`Json.sortedMembers_perm`), and a decoder
that reads a record by the names of its fields reads the same off it.

## Main results

* `Json.InWords.sorted` — the numbers of a value stay what they are.
* `Decoder.ReadsFields.reads_sorted` — a record is read off the sorted value of its
  members.
-/

namespace Preflight

namespace Json

variable {name : String} {value : Json} {members : List (String × Json)}

/-- A new name only finds its place. -/
theorem insertMember_perm (h : name ∉ members.map Prod.fst) :
    (insertMember name value members).Perm ((name, value) :: members) := by
  induction members with
  | nil => exact .refl _
  | cons member rest ih =>
      rw [List.map_cons, List.mem_cons, not_or] at h
      rw [insertMember, if_neg h.1]
      split
      · exact .refl _
      · exact ((ih h.2).cons member).trans (.swap _ _ rest)

/-- If no name occurs twice, sorting changes the order of the members and sorts their values. -/
theorem sortedMembers_perm (h : (members.map Prod.fst).Nodup) :
    (sortedMembers members).Perm (members.map fun member => (member.1, member.2.sorted)) := by
  induction members with
  | nil => exact .refl _
  | cons member rest ih =>
      obtain ⟨hnew, hrest⟩ := List.nodup_cons.mp h
      have hperm := ih hrest
      have hnames : member.1 ∉ (sortedMembers rest).map Prod.fst := by
        rw [(hperm.map Prod.fst).mem_iff, List.map_map]
        exact hnew
      exact (insertMember_perm hnames).trans (hperm.cons _)

theorem sortedItems_eq_map (items : List Json) : sortedItems items = items.map sorted := by
  induction items with
  | nil => rfl
  | cons item rest ih => rw [sortedItems, ih, List.map_cons]

theorem mem_insertMember {member : String × Json} (h : member ∈ insertMember name value members) :
    member = (name, value) ∨ member ∈ members := by
  induction members with
  | nil => exact .inl (List.mem_singleton.mp h)
  | cons first rest ih =>
      rw [insertMember] at h
      split at h
      · exact .inr h
      · split at h
        · exact List.mem_cons.mp h
        · rcases List.mem_cons.mp h with rfl | h
          · exact .inr List.mem_cons_self
          · exact (ih h).imp_right (List.mem_cons_of_mem first)

mutual

/-- The numbers of a sorted value are those of the value. -/
theorem InWords.sorted : ∀ {value : Json}, value.InWords → value.sorted.InWords
  | .array items, .array h => .array (inWords_sortedItems items h)
  | .object members, .object h => .object (inWords_sortedMembers members h)
  | .null, h => h
  | .bool _, h => h
  | .number _, h => h
  | .string _, h => h

theorem inWords_sortedItems : ∀ items : List Json, (∀ item ∈ items, item.InWords) →
    ∀ item ∈ sortedItems items, item.InWords
  | [], _, _, hitem => nomatch hitem
  | first :: rest, h, item, hitem => by
      obtain ⟨hfirst, hrest⟩ := List.forall_mem_cons.mp h
      rcases List.mem_cons.mp hitem with rfl | hitem
      · exact hfirst.sorted
      · exact inWords_sortedItems rest hrest item hitem

theorem inWords_sortedMembers : ∀ members : List (String × Json),
    (∀ member ∈ members, member.2.InWords) → ∀ member ∈ sortedMembers members, member.2.InWords
  | [], _, _, hmember => nomatch hmember
  | (name, value) :: rest, h, member, hmember => by
      obtain ⟨hvalue, hrest⟩ := List.forall_mem_cons.mp h
      rcases mem_insertMember hmember with rfl | hmember
      · exact hvalue.sorted
      · exact inWords_sortedMembers rest hrest member hmember

end

end Json

/-- A record is read off a sorted value as it is off its members, once these are sorted. -/
theorem Decoder.ReadsFields.reads_sorted {α : Type} {decode : Decoder α}
    {fields : List (RecordField α)} (h : decode.ReadsFields fields) {members : List (String × Json)}
    (hnames : (members.map Prod.fst).Nodup) {x : α}
    (hreads : Reads decode (.object (members.map fun member => (member.1, member.2.sorted))) x) :
    Reads decode (Json.object members).sorted x :=
  h.reads_object ((Json.sortedMembers_perm hnames).filter _) hreads

/-- A name that occurs twice has its last value. -/
example :
    (Json.object [("b", .null), ("a", .bool true), ("b", .bool false)]).sorted =
      .object [("a", .bool true), ("b", .bool false)] := by
  rfl

end Preflight
