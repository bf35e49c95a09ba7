import Preflight.Proofs.Json.Scalars

/-!
# The texts of a document

White space may stand around every part of a document, so one value has many
texts. `Spells` is the relation between a value and its texts. It is cut into the
same parts as the functions that read a text are: a value; the items behind a
bracket or behind an item; an item with all that follows it; and likewise for the
members of an object. Each function of the reader then has its own part to read,
and an induction over a text is an induction over the calls that read it.

The compact and the pretty form are two of the texts. They differ in the white
space alone, and the proofs for both are one proof about items and members with
commas and some white space between them.

## Main results

* `Json.spells_compactChars`, `Json.spells_prettyChars` — both written forms of a
  value are texts of it, if its numbers are integers of 64 bits.
-/

namespace Preflight

namespace Json

/-- A value all of whose numbers are integers of 64 bits. -/
inductive InWords : Json → Prop
  | null : InWords .null
  | bool (b : Bool) : InWords (.bool b)
  | number {n : JsonNumber} (h : n.IsWord) : InWords (.number n)
  | string (s : String) : InWords (.string s)
  | array {items : List Json} (h : ∀ item ∈ items, InWords item) : InWords (.array items)
  | object {members : List (String × Json)} (h : ∀ member ∈ members, InWords member.2) :
      InWords (.object members)

/-- White space, or nothing. -/
def Blank (cs : List Char) : Prop := ∀ c ∈ cs, Cursor.isSpace c = true

/-- The parts into which the reader of a document cuts it. -/
inductive Part where
  | value (value : Json)
  /-- What follows the bracket of an array, or an item of it. -/
  | items (first : Bool) (items : List Json)
  /-- An item and all that follows it in its array. -/
  | item (value : Json) (rest : List Json)
  /-- What follows the brace of an object, or a member of it. -/
  | members (first : Bool) (members : List (String × Json))
  /-- A member behind the quote that opens its name, and all that follows it in its object. -/
  | member (name : String) (value : Json) (rest : List (String × Json))

/-- The texts of a value: white space may stand around every part. -/
inductive Spells : Part → List Char → Prop
  | null : Spells (.value .null) "null".toList
  | bool (b : Bool) : Spells (.value (.bool b)) (boolChars b)
  | number {n : JsonNumber} (h : n.IsWord) : Spells (.value (.number n)) n.text.toList
  | string (s : String) : Spells (.value (.string s)) (stringChars s)
  | array {items : List Json} {gap cs : List Char} (hgap : Blank gap)
      (hitems : Spells (.items true items) cs) : Spells (.value (.array items)) ('[' :: (gap ++ cs))
  | object {members : List (String × Json)} {gap cs : List Char} (hgap : Blank gap)
      (hmembers : Spells (.members true members) cs) :
      Spells (.value (.object members)) ('\x7b' :: (gap ++ cs))
  | noItems (first : Bool) : Spells (.items first []) [']']
  | firstItem {value : Json} {rest : List Json} {cs : List Char}
      (hitem : Spells (.item value rest) cs) : Spells (.items true (value :: rest)) cs
  | nextItem {value : Json} {rest : List Json} {gap cs : List Char} (hgap : Blank gap)
      (hitem : Spells (.item value rest) cs) :
      Spells (.items false (value :: rest)) (',' :: (gap ++ cs))
  | item {value : Json} {rest : List Json} {cs gap ds : List Char}
      (hvalue : Spells (.value value) cs) (hgap : Blank gap)
      (hrest : Spells (.items false rest) ds) : Spells (.item value rest) (cs ++ (gap ++ ds))
  | noMembers (first : Bool) : Spells (.members first []) ['\x7d']
  | firstMember {name : String} {value : Json} {rest : List (String × Json)} {cs : List Char}
      (hmember : Spells (.member name value rest) cs) :
      Spells (.members true ((name, value) :: rest)) ('"' :: cs)
  | nextMember {name : String} {value : Json} {rest : List (String × Json)} {gap cs : List Char}
      (hgap : Blank gap) (hmember : Spells (.member name value rest) cs) :
      Spells (.members false ((name, value) :: rest)) (',' :: (gap ++ '"' :: cs))
  | member {name : String} {value : Json} {rest : List (String × Json)}
      {before behind cs gap ds : List Char} (hbefore : Blank before) (hbehind : Blank behind)
      (hvalue : Spells (.value value) cs) (hgap : Blank gap)
      (hrest : Spells (.members false rest) ds) :
      Spells (.member name value rest)
        (name.toList.flatMap escapeChar ++
          '"' :: (before ++ ':' :: (behind ++ (cs ++ (gap ++ ds)))))

theorem blank_nil : Blank [] := by
  intro c hc
  cases hc

theorem blank_newLine (depth : Nat) : Blank (newLine depth) := by
  intro c hc
  rcases List.mem_cons.mp hc with rfl | hc
  · rfl
  · rw [List.eq_of_mem_replicate hc]
    rfl

/-! ## The two written forms -/

section Separated

variable {close between : List Char} (hclose : Blank close) (hbetween : Blank between)
include hclose hbetween

/-- Items that are written with commas and white space between them are spelled. -/
theorem spells_separatedItems (write : List Json → List Char) (writeItem : Json → List Char)
    (hlast : ∀ value, write [value] = writeItem value)
    (hnext : ∀ value next rest, write (value :: next :: rest) =
      writeItem value ++ ',' :: between ++ write (next :: rest))
    (value : Json) (rest : List Json)
    (h : ∀ item ∈ value :: rest, Spells (.value item) (writeItem item)) :
    Spells (.item value rest) (write (value :: rest) ++ (close ++ [']'])) := by
  induction rest generalizing value with
  | nil =>
      rw [hlast]
      exact .item (h value List.mem_cons_self) hclose (.noItems false)
  | cons next rest ih =>
      have hrest := ih next fun item hitem => h item (List.mem_cons_of_mem _ hitem)
      have hitem := Spells.item (h value List.mem_cons_self) blank_nil (.nextItem hbetween hrest)
      rw [hnext]
      simpa using hitem

/-- Members that are written with commas and white space between them are spelled. -/
theorem spells_separatedMembers (write : List (String × Json) → List Char)
    (writeValue : Json → List Char) {behind : List Char} (hbehind : Blank behind)
    (hlast : ∀ name value,
      write [(name, value)] = stringChars name ++ ':' :: behind ++ writeValue value)
    (hnext : ∀ name value next rest, write ((name, value) :: next :: rest) =
      stringChars name ++ ':' :: behind ++ writeValue value ++ ',' :: between ++
        write (next :: rest))
    (name : String) (value : Json) (rest : List (String × Json))
    (h : ∀ member ∈ (name, value) :: rest, Spells (.value member.2) (writeValue member.2)) :
    ∃ cs, write ((name, value) :: rest) ++ close ++ ['\x7d'] = '"' :: cs ∧
      Spells (.member name value rest) cs := by
  induction rest generalizing name value with
  | nil =>
      refine ⟨_, ?_, .member blank_nil hbehind (h _ List.mem_cons_self) hclose (.noMembers false)⟩
      simp [hlast, stringChars]
  | cons next rest ih =>
      obtain ⟨cs, hcs, hrest⟩ :=
        ih next.1 next.2 fun member hmember => h member (List.mem_cons_of_mem _ hmember)
      rw [List.append_assoc] at hcs
      refine ⟨_, ?_, .member blank_nil hbehind (h _ List.mem_cons_self) blank_nil
        (.nextMember hbetween hrest)⟩
      simp [hnext, stringChars, hcs]

end Separated

theorem spells_compactChars {v : Json} (h : v.InWords) : Spells (.value v) (compactChars v) := by
  induction h with
  | null => rw [compactChars]; exact .null
  | bool b => rw [compactChars]; exact .bool b
  | number h => rw [compactChars]; exact .number h
  | string s => rw [compactChars]; exact .string s
  | @array items _ ih =>
      cases items with
      | nil => exact Spells.array blank_nil (.noItems true)
      | cons value rest =>
          have hitems := spells_separatedItems blank_nil blank_nil compactItems compactChars
            (fun _ => rfl) (fun _ _ _ => by simp [compactItems]) value rest ih
          have harray := Spells.array blank_nil (.firstItem hitems)
          simpa [compactChars] using harray
  | @object members _ ih =>
      cases members with
      | nil => exact Spells.object blank_nil (.noMembers true)
      | cons first rest =>
          obtain ⟨cs, hcs, hmember⟩ := spells_separatedMembers blank_nil blank_nil compactMembers
            compactChars blank_nil (fun _ _ => by simp [compactMembers])
            (fun _ _ _ _ => by simp [compactMembers]) first.1 first.2 rest ih
          have hobject := Spells.object blank_nil (.firstMember hmember)
          rw [← hcs] at hobject
          simpa [compactChars] using hobject

theorem spells_prettyChars {v : Json} (h : v.InWords) (depth : Nat) :
    Spells (.value v) (prettyChars depth v) := by
  have hspace : Blank [' '] := by simp [Blank, Cursor.isSpace]
  induction h generalizing depth with
  | null => rw [prettyChars]; exact .null
  | bool b => rw [prettyChars]; exact .bool b
  | number h => rw [prettyChars]; exact .number h
  | string s => rw [prettyChars]; exact .string s
  | @array items _ ih =>
      cases items with
      | nil => rw [prettyChars]; exact Spells.array blank_nil (.noItems true)
      | cons value rest =>
          have hitems := spells_separatedItems (blank_newLine depth) (blank_newLine (depth + 1))
            (prettyItems depth) (prettyChars (depth + 1)) (fun _ => rfl) (fun _ _ _ => rfl) value rest
            fun item hitem => ih item hitem (depth + 1)
          have harray := Spells.array (blank_newLine (depth + 1)) (.firstItem hitems)
          simpa [prettyChars] using harray
  | @object members _ ih =>
      cases members with
      | nil => rw [prettyChars]; exact Spells.object blank_nil (.noMembers true)
      | cons first rest =>
          obtain ⟨cs, hcs, hmember⟩ := spells_separatedMembers (blank_newLine depth)
            (blank_newLine (depth + 1)) (prettyMembers depth) (prettyChars (depth + 1)) hspace
            (fun _ _ => by simp [prettyMembers]) (fun _ _ _ _ => by simp [prettyMembers])
            first.1 first.2 rest
            fun member hmember => ih member hmember (depth + 1)
          have hobject := Spells.object (blank_newLine (depth + 1)) (.firstMember hmember)
          rw [← hcs] at hobject
          simpa [prettyChars] using hobject

end Json

end Preflight
