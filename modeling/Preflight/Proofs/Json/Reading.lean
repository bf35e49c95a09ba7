import Preflight.Json.Document
import Preflight.Proofs.Json.Spelling

/-!
# Every text of a document is read

The reader has fuel, and its pieces call each other. What it does on the text of
a part is the same whatever follows the text and however much fuel is left over:
it stops right behind the part, and the document it has by then has the value that
the text is a text of (`Part.Read`). Each of the rules that make up `Spells` has
one lemma, and the induction over the rules puts them together.

The fuel is three calls for each character that is left, and up to three more for
the part that is being read. A page supplies four for each character.

## Main results

* `Spells.read` — every part is read off each of its texts.
* `Spells.parse` — a text of a value, with white space around it, makes a page of
  that value.
-/

namespace Preflight

namespace Json

/-! ## White space -/

theorem skipSpaceFrom_blank {gap : List Char} (hgap : Blank gap) (rest : List Char)
    (hrest : ∀ c tail, rest = c :: tail → Cursor.isSpace c = false) (place : Place) :
    Cursor.skipSpaceFrom place (gap ++ rest) = ⟨place.pastAll gap, rest⟩ := by
  induction gap generalizing place with
  | nil =>
      cases rest with
      | nil => rfl
      | cons c tail => simp [Cursor.skipSpaceFrom, hrest c tail rfl, Place.pastAll]
  | cons c gap ih =>
      have hc : Cursor.isSpace c = true := hgap c List.mem_cons_self
      have hstep := ih (fun d hd => hgap d (List.mem_cons_of_mem _ hd)) (place.past c)
      simp [Cursor.skipSpaceFrom, hc, hstep, Place.pastAll]

theorem skipSpace_blank {gap : List Char} (hgap : Blank gap) {c : Char} (tail : List Char)
    (hc : Cursor.isSpace c = false) (place : Place) :
    (Cursor.mk place (gap ++ c :: tail)).skipSpace = ⟨place.pastAll gap, c :: tail⟩ :=
  skipSpaceFrom_blank hgap _ (fun _ _ heq => (List.cons.inj heq).1 ▸ hc) place

theorem no_numeral_of_isSpace {c : Char} (h : Cursor.isSpace c = true) :
    Text.isDecimalDigit c = false ∧ c ≠ '.' ∧ Numeral.isExponentMark c = false := by
  simp only [Cursor.isSpace, Bool.or_eq_true, decide_eq_true_eq] at h
  rcases h with ((rfl | rfl) | rfl) | rfl <;> decide

theorem Blank.ends {gap : List Char} (hgap : Blank gap) : Numeral.Ends gap := by
  intro c tail heq
  exact no_numeral_of_isSpace (hgap c (by rw [heq]; exact List.mem_cons_self))

/-- A character that ends a value or stands between two. -/
def Closes (c : Char) : Prop := c = ']' ∨ c = '\x7d' ∨ c = ','

theorem Closes.not_space {c : Char} (h : Closes c) : Cursor.isSpace c = false := by
  rcases h with rfl | rfl | rfl <;> rfl

theorem Closes.ends {c : Char} (hc : Closes c) {gap : List Char} (hgap : Blank gap)
    (tail : List Char) : Numeral.Ends (gap ++ c :: tail) := by
  intro d ds heq
  cases gap with
  | nil =>
      obtain rfl := (List.cons.inj heq).1
      rcases hc with rfl | rfl | rfl <;> decide
  | cons e gap =>
      obtain rfl := (List.cons.inj heq).1
      exact no_numeral_of_isSpace (hgap e List.mem_cons_self)

/-! ### What parts begin with -/

theorem Spells.value_head {v : Json} {cs : List Char} (h : Spells (.value v) cs) :
    ∃ c tail, cs = c :: tail ∧ Cursor.isSpace c = false ∧ c ≠ ']' := by
  cases h with
  | null => exact ⟨'n', _, rfl, by decide⟩
  | bool b => cases b <;> exact ⟨_, _, rfl, by decide⟩
  | number hn =>
      obtain ⟨c, tail, htext, hc⟩ := Numeral.exists_text_eq_cons hn
      refine ⟨c, tail, htext, ?_, ?_⟩
      · rcases hc with rfl | hc
        · rfl
        · rw [Bool.eq_false_iff]
          intro hspace
          rw [(no_numeral_of_isSpace hspace).1] at hc
          cases hc
      · rintro rfl
        revert hc
        decide
  | string s => exact ⟨'"', _, rfl, by decide⟩
  | array => exact ⟨'[', _, rfl, by decide⟩
  | object => exact ⟨'\x7b', _, rfl, by decide⟩

theorem Spells.item_head {v : Json} {rest : List Json} {cs : List Char}
    (h : Spells (.item v rest) cs) :
    ∃ c tail, cs = c :: tail ∧ Cursor.isSpace c = false ∧ c ≠ ']' := by
  cases h with
  | item hvalue _ _ =>
      obtain ⟨c, tail, rfl, hc⟩ := hvalue.value_head
      exact ⟨c, _, rfl, hc⟩

theorem Spells.items_head {items : List Json} {cs : List Char} (h : Spells (.items true items) cs) :
    ∃ c tail, cs = c :: tail ∧ Cursor.isSpace c = false := by
  cases h with
  | noItems => exact ⟨']', _, rfl, rfl⟩
  | firstItem hitem =>
      obtain ⟨c, tail, heq, hc, _⟩ := hitem.item_head
      exact ⟨c, tail, heq, hc⟩

theorem Spells.members_head {members : List (String × Json)} {cs : List Char}
    (h : Spells (.members true members) cs) :
    ∃ c tail, cs = c :: tail ∧ Cursor.isSpace c = false := by
  cases h with
  | noMembers => exact ⟨'\x7d', _, rfl, rfl⟩
  | firstMember => exact ⟨'"', _, rfl, rfl⟩

theorem Spells.nextItems_head {items : List Json} {cs : List Char}
    (h : Spells (.items false items) cs) : ∃ c tail, cs = c :: tail ∧ Closes c := by
  cases h with
  | noItems => exact ⟨']', _, rfl, .inl rfl⟩
  | nextItem => exact ⟨',', _, rfl, .inr (.inr rfl)⟩

theorem Spells.nextMembers_head {members : List (String × Json)} {cs : List Char}
    (h : Spells (.members false members) cs) : ∃ c tail, cs = c :: tail ∧ Closes c := by
  cases h with
  | noMembers => exact ⟨'\x7d', _, rfl, .inr (.inl rfl)⟩
  | nextMember => exact ⟨',', _, rfl, .inr (.inr rfl)⟩

/-! ## Reading the parts -/

/-- To read a part off the front of a text: given fuel, the reader stops behind it and has the
values that the part is made of. -/
def Part.Read : Part → List Char → Prop
  | .value v, cs => ∀ fuel place rest, Numeral.Ends rest → 3 * (cs ++ rest).length + 1 ≤ fuel →
      ∃ doc stop, Page.readValue fuel ⟨place, cs ++ rest⟩ = (doc, some ⟨stop, rest⟩) ∧
        doc.toJson = .ok v
  | .items first vs, cs => ∀ fuel place rest, 3 * (cs ++ rest).length + 3 ≤ fuel →
      ∃ items stop, Page.readItems fuel first ⟨place, cs ++ rest⟩ = (items, some ⟨stop, rest⟩) ∧
        Doc.itemsToJson items = .ok vs
  | .item v vs, cs => ∀ fuel place rest, 3 * (cs ++ rest).length + 2 ≤ fuel →
      ∃ items stop, Page.readItem fuel ⟨place, cs ++ rest⟩ = (items, some ⟨stop, rest⟩) ∧
        Doc.itemsToJson items = .ok (v :: vs)
  | .members first ms, cs => ∀ fuel place rest, 3 * (cs ++ rest).length + 3 ≤ fuel →
      ∃ members stop,
        Page.readMembers fuel first ⟨place, cs ++ rest⟩ = (members, some ⟨stop, rest⟩) ∧
          Doc.membersToJson members = .ok ms
  | .member name v ms, cs => ∀ fuel start place rest, 3 * (cs ++ rest).length + 2 ≤ fuel →
      ∃ members stop,
        Page.readMember fuel start ⟨place, cs ++ rest⟩ = (members, some ⟨stop, rest⟩) ∧
          Doc.membersToJson members = .ok ((name, v) :: ms)

theorem readWord_self (letters rest : List Char) (place : Place) :
    Page.readWord letters ⟨place, letters ++ rest⟩ = .ok ⟨place.pastAll letters, rest⟩ := by
  induction letters generalizing place with
  | nil => rfl
  | cons letter letters ih => simp [Page.readWord, ih, Place.pastAll]

theorem readWordValue_self (word : String) (opening : Opening) (make : Spot → Spot → Doc)
    (place : Place) (rest : List Char) :
    Page.readWordValue word opening make ⟨place, word.toList ++ rest⟩ =
      (make (some place) (some (place.pastAll word.toList)),
        some ⟨place.pastAll word.toList, rest⟩) := by
  simp [Page.readWordValue, readWord_self]

theorem read_null : (Part.value .null).Read "null".toList := by
  intro fuel place rest _ hfuel
  cases fuel with
  | zero => omega
  | succ fuel => exact ⟨_, _, readWordValue_self "null" .nullWord .null place rest, rfl⟩

theorem read_bool (b : Bool) : (Part.value (.bool b)).Read (boolChars b) := by
  intro fuel place rest _ hfuel
  cases fuel with
  | zero => omega
  | succ fuel =>
      cases b with
      | true => exact ⟨_, _, readWordValue_self "true" .plain (.bool true) place rest, rfl⟩
      | false => exact ⟨_, _, readWordValue_self "false" .plain (.bool false) place rest, rfl⟩

theorem readValue_of_numeral {c : Char} (hc : c = '-' ∨ Text.isDecimalDigit c = true)
    (fuel : Nat) (place : Place) (tail : List Char) :
    Page.readValue (fuel + 1) ⟨place, c :: tail⟩ = Page.readNumber ⟨place, c :: tail⟩ := by
  have hword : c ≠ 'n' ∧ c ≠ 't' ∧ c ≠ 'f' ∧ c ≠ '"' := by
    refine ⟨?_, ?_, ?_, ?_⟩ <;> rintro rfl <;> revert hc <;> decide
  simp [Page.readValue, hword, hc]

theorem read_number {n : JsonNumber} (hn : n.IsWord) :
    (Part.value (.number n)).Read n.text.toList := by
  intro fuel place rest hrest hfuel
  cases fuel with
  | zero => omega
  | succ fuel =>
      obtain ⟨c, tail, htext, hc⟩ := Numeral.exists_text_eq_cons hn
      obtain ⟨scan, hscan, hvalue, hscanned⟩ := Numeral.scan?_text hn hrest
      have hread : Page.readValue (fuel + 1) ⟨place, n.text.toList ++ rest⟩ =
          Page.readNumber ⟨place, n.text.toList ++ rest⟩ := by
        rw [htext]
        exact readValue_of_numeral hc fuel place (tail ++ rest)
      rw [hread]
      simp only [Page.readNumber, hscan, hvalue, hscanned]
      exact ⟨_, _, rfl, rfl⟩

theorem read_string (s : String) : (Part.value (.string s)).Read (stringChars s) := by
  intro fuel place rest _ hfuel
  cases fuel with
  | zero => omega
  | succ fuel =>
      obtain ⟨stop, hread⟩ := Page.readStringValue_written s place (place.past '"') rest
      refine ⟨.string (.ok s) (some place) (some stop), stop, ?_, rfl⟩
      simp [Page.readValue, stringChars, hread]

section Arrays

variable {items rest : List Json} {value : Json} {gap cs ds : List Char}

theorem read_array (hgap : Blank gap) (hitems : Spells (.items true items) cs)
    (ih : (Part.items true items).Read cs) :
    (Part.value (.array items)).Read ('[' :: (gap ++ cs)) := by
  intro fuel place rest _ hfuel
  obtain ⟨c, tail, rfl, hc⟩ := hitems.items_head
  simp only [List.cons_append, List.append_assoc, List.length_cons, List.length_append]
    at hfuel ⊢
  cases fuel with
  | zero => omega
  | succ fuel =>
      have hskip := skipSpace_blank hgap (tail ++ rest) hc (place.past '[')
      obtain ⟨items, stop, hread, hvalues⟩ := ih fuel ((place.past '[').pastAll gap) rest
        (by simp only [List.length_append, List.length_cons]; omega)
      rw [List.cons_append] at hread
      refine ⟨.array items (some place), stop, ?_, ?_⟩
      · simp [Page.readValue, hskip, hread, Text.isDecimalDigit]
      · simp [Doc.toJson, hvalues, Except.map]

theorem read_noItems (first : Bool) : (Part.items first []).Read [']'] := by
  intro fuel place rest hfuel
  cases fuel with
  | zero => omega
  | succ fuel =>
      refine ⟨.closed (some (place.past ']')), place.past ']', ?_, rfl⟩
      simp [Page.readItems]

theorem read_firstItem (hitem : Spells (.item value rest) cs)
    (ih : (Part.item value rest).Read cs) : (Part.items true (value :: rest)).Read cs := by
  intro fuel place behind hfuel
  obtain ⟨c, tail, rfl, _, hc⟩ := hitem.item_head
  cases fuel with
  | zero => omega
  | succ fuel =>
      obtain ⟨items, stop, hread, hvalues⟩ := ih fuel place behind (by omega)
      refine ⟨items, stop, ?_, hvalues⟩
      rw [← hread]
      simp [Page.readItems, hc]

theorem read_nextItem (hgap : Blank gap) (hitem : Spells (.item value rest) cs)
    (ih : (Part.item value rest).Read cs) :
    (Part.items false (value :: rest)).Read (',' :: (gap ++ cs)) := by
  intro fuel place behind hfuel
  obtain ⟨c, tail, rfl, hspace, hc⟩ := hitem.item_head
  simp only [List.cons_append, List.append_assoc, List.length_cons, List.length_append]
    at hfuel ⊢
  cases fuel with
  | zero => omega
  | succ fuel =>
      have hskip := skipSpace_blank hgap (tail ++ behind) hspace (place.past ',')
      obtain ⟨items, stop, hread, hvalues⟩ := ih fuel ((place.past ',').pastAll gap) behind
        (by simp only [List.length_append, List.length_cons]; omega)
      rw [List.cons_append] at hread
      refine ⟨items, stop, ?_, hvalues⟩
      simp only [Page.readItems, Char.reduceEq, ↓reduceIte, Bool.false_eq_true, hskip]
      split
      case h_1 heq => cases heq
      case h_2 heq => exact absurd (List.cons.inj heq).1 hc
      case h_3 => exact hread

theorem read_item (hgap : Blank gap) (hvalue : Spells (.value value) cs)
    (hrest : Spells (.items false rest) ds) (ihvalue : (Part.value value).Read cs)
    (ihrest : (Part.items false rest).Read ds) :
    (Part.item value rest).Read (cs ++ (gap ++ ds)) := by
  intro fuel place behind hfuel
  obtain ⟨b, head, rfl, _⟩ := hvalue.value_head
  obtain ⟨c, tail, rfl, hc⟩ := hrest.nextItems_head
  simp only [List.cons_append, List.append_assoc, List.length_cons, List.length_append]
    at hfuel ⊢
  cases fuel with
  | zero => omega
  | succ fuel =>
      obtain ⟨doc, stop, hread, hjson⟩ := ihvalue fuel place (gap ++ c :: (tail ++ behind))
        (hc.ends hgap _)
        (by simp only [List.length_append, List.length_cons]; omega)
      have hskip := skipSpace_blank hgap (tail ++ behind) hc.not_space stop
      obtain ⟨items, last, hreads, hvalues⟩ := ihrest fuel (stop.pastAll gap) behind
        (by simp only [List.length_append, List.length_cons]; omega)
      rw [List.cons_append] at hread hreads
      refine ⟨.item doc items, last, ?_, ?_⟩
      · simp [Page.readItem, hread, hskip, hreads]
      · simp [Doc.itemsToJson, hjson, hvalues, Except.map]

end Arrays

section Objects

variable {members rest : List (String × Json)} {name : String} {value : Json}
  {before behind gap cs ds : List Char}

theorem read_object (hgap : Blank gap) (hmembers : Spells (.members true members) cs)
    (ih : (Part.members true members).Read cs) :
    (Part.value (.object members)).Read ('\x7b' :: (gap ++ cs)) := by
  intro fuel place rest _ hfuel
  obtain ⟨c, tail, rfl, hc⟩ := hmembers.members_head
  simp only [List.cons_append, List.append_assoc, List.length_cons, List.length_append]
    at hfuel ⊢
  cases fuel with
  | zero => omega
  | succ fuel =>
      have hskip := skipSpace_blank hgap (tail ++ rest) hc (place.past '\x7b')
      obtain ⟨members, stop, hread, hvalues⟩ := ih fuel ((place.past '\x7b').pastAll gap) rest
        (by simp only [List.length_append, List.length_cons]; omega)
      rw [List.cons_append] at hread
      refine ⟨.object members (some place), stop, ?_, ?_⟩
      · simp [Page.readValue, hskip, hread, Text.isDecimalDigit]
      · simp [Doc.toJson, hvalues, Except.map]

theorem read_noMembers (first : Bool) : (Part.members first []).Read ['\x7d'] := by
  intro fuel place rest hfuel
  cases fuel with
  | zero => omega
  | succ fuel =>
      refine ⟨.closed (some (place.past '\x7d')), place.past '\x7d', ?_, rfl⟩
      simp [Page.readMembers]

theorem read_firstMember (ih : (Part.member name value rest).Read cs) :
    (Part.members true ((name, value) :: rest)).Read ('"' :: cs) := by
  intro fuel place after hfuel
  simp only [List.cons_append, List.length_cons] at hfuel ⊢
  cases fuel with
  | zero => omega
  | succ fuel =>
      obtain ⟨members, stop, hread, hvalues⟩ := ih fuel place (place.past '"') after (by omega)
      refine ⟨members, stop, ?_, hvalues⟩
      simp [Page.readMembers, hread]

theorem read_nextMember (hgap : Blank gap) (ih : (Part.member name value rest).Read cs) :
    (Part.members false ((name, value) :: rest)).Read (',' :: (gap ++ '"' :: cs)) := by
  intro fuel place after hfuel
  simp only [List.cons_append, List.append_assoc, List.length_cons, List.length_append]
    at hfuel ⊢
  cases fuel with
  | zero => omega
  | succ fuel =>
      have hskip := skipSpace_blank hgap (cs ++ after) (c := '"') rfl (place.past ',')
      obtain ⟨members, stop, hread, hvalues⟩ := ih fuel ((place.past ',').pastAll gap)
        (((place.past ',').pastAll gap).past '"') after
        (by simp only [List.length_append]; omega)
      refine ⟨members, stop, ?_, hvalues⟩
      simp [Page.readMembers, hskip, hread]

/-- A member is its name, a colon, its value, and the members behind it. -/
theorem readMember_eq {fuel : Nat} {start inside colon : Place} {chars tail : List Char}
    {behind reached last : Cursor} {opening stop : Spot} {doc : Doc} {members : Members}
    (hname : Page.readStringValue start inside chars =
      (.string (.ok name) opening stop, some behind))
    (hcolon : behind.skipSpace = ⟨colon, ':' :: tail⟩)
    (hvalue : Page.readValue fuel (Cursor.mk (colon.past ':') tail).skipSpace =
      (doc, some reached))
    (hmembers : Page.readMembers fuel false reached.skipSpace = (members, some last)) :
    ∃ beyond, Page.readMember (fuel + 1) start ⟨inside, chars⟩ =
      (.member ⟨.ok name, stop, beyond⟩ doc (some reached.skipSpace.place) members,
        some last) := by
  refine ⟨some (Page.beyondBrace ⟨colon, ':' :: tail⟩), ?_⟩
  simp [Page.readMember, hname, hcolon, hvalue, hmembers]

theorem read_member (hbefore : Blank before) (hbehind : Blank behind)
    (hvalue : Spells (.value value) cs) (hgap : Blank gap)
    (hrest : Spells (.members false rest) ds) (ihvalue : (Part.value value).Read cs)
    (ihrest : (Part.members false rest).Read ds) :
    (Part.member name value rest).Read (name.toList.flatMap escapeChar ++
      '"' :: (before ++ ':' :: (behind ++ (cs ++ (gap ++ ds))))) := by
  intro fuel start place after hfuel
  obtain ⟨b, head, rfl, hb, _⟩ := hvalue.value_head
  obtain ⟨c, tail, rfl, hc⟩ := hrest.nextMembers_head
  simp only [List.cons_append, List.append_assoc, List.length_cons, List.length_append]
    at hfuel ⊢
  cases fuel with
  | zero => omega
  | succ fuel =>
      obtain ⟨stop, hname⟩ := Page.readStringValue_written name start place
        (before ++ ':' :: (behind ++ b :: (head ++ (gap ++ c :: (tail ++ after)))))
      have hcolon := skipSpace_blank hbefore (c := ':')
        (behind ++ b :: (head ++ (gap ++ c :: (tail ++ after)))) rfl stop
      obtain ⟨doc, reached, hread, hjson⟩ := ihvalue fuel
        (((stop.pastAll before).past ':').pastAll behind) (gap ++ c :: (tail ++ after))
        (hc.ends hgap _)
        (by simp only [List.length_append, List.length_cons]; omega)
      rw [List.cons_append, ← skipSpace_blank hbehind _ hb] at hread
      obtain ⟨members, last, hreads, hvalues⟩ := ihrest fuel (reached.pastAll gap) after
        (by simp only [List.length_append, List.length_cons]; omega)
      rw [List.cons_append, ← skipSpace_blank hgap _ hc.not_space] at hreads
      obtain ⟨beyond, hmember⟩ := readMember_eq hname hcolon hread hreads
      refine ⟨_, last, hmember, ?_⟩
      simp [Doc.membersToJson, hjson, hvalues, Except.map]

end Objects

/-- **Every part is read off each of its texts.** -/
theorem Spells.read {part : Part} {cs : List Char} (h : Spells part cs) : part.Read cs := by
  induction h with
  | null => exact read_null
  | bool b => exact read_bool b
  | number hn => exact read_number hn
  | string s => exact read_string s
  | array hgap hitems ih => exact read_array hgap hitems ih
  | object hgap hmembers ih => exact read_object hgap hmembers ih
  | noItems first => exact read_noItems first
  | firstItem hitem ih => exact read_firstItem hitem ih
  | nextItem hgap hitem ih => exact read_nextItem hgap hitem ih
  | item hvalue hgap hrest ihvalue ihrest => exact read_item hgap hvalue hrest ihvalue ihrest
  | noMembers first => exact read_noMembers first
  | firstMember _ ih => exact read_firstMember ih
  | nextMember hgap _ ih => exact read_nextMember hgap ih
  | member hbefore hbehind hvalue hgap hrest ihvalue ihrest =>
      exact read_member hbefore hbehind hvalue hgap hrest ihvalue ihrest

/-- A text of a value, with white space around it, is a page with nothing else on it. -/
theorem Spells.parse {v : Json} {before cs behind : List Char} (hbefore : Blank before)
    (h : Spells (.value v) cs) (hbehind : Blank behind) :
    ∃ root, Page.parse (String.ofList (before ++ (cs ++ behind))) = ⟨root, none⟩ ∧
      root.toJson = .ok v := by
  obtain ⟨c, tail, rfl, hc, _⟩ := h.value_head
  have hskip := skipSpace_blank hbefore (tail ++ behind) hc ⟨1, 0⟩
  obtain ⟨root, stop, hread, hjson⟩ := h.read (4 * (c :: (tail ++ behind)).length + 4)
    (Place.pastAll ⟨1, 0⟩ before) behind hbehind.ends (by simp only [List.cons_append]; omega)
  have hlast : (Cursor.mk stop behind).skipSpace = ⟨stop.pastAll behind, []⟩ := by
    have hblank := skipSpaceFrom_blank hbehind [] (by simp) stop
    rwa [List.append_nil] at hblank
  refine ⟨root, ?_, hjson⟩
  rw [List.cons_append] at hread
  simp only [Page.parse, Page.start, String.toList_ofList, List.cons_append, hskip, hread, hlast,
    List.isEmpty_nil, ↓reduceIte]

end Json

end Preflight
