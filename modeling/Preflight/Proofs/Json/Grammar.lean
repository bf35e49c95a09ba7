import Preflight.Proofs.Json.Fuel
import Preflight.Proofs.Json.Lexemes
import Preflight.Proofs.Json.Reading

/-!
# The grammar of documents

`Wellformed` is the grammar of JSON texts. It is cut into the same parts as the reader
is, and says of a value of which kind it is, but not what it says: a number may be out
of range and a string may have no text, and an object may have two members of one name.

What is read off a part depends on the part and on the place where it begins, and not on
what follows it (`Wellformed.read`). So if two texts differ in one value alone, they are
read in the same way up to it; and behind it too, if both values end at the same place.

## Main results

* `Json.Wellformed.read` — every part is read off each of its texts.
* `Json.Leading.read` — members in front of others are read before them.
-/

namespace Preflight

namespace Json

/-- The kinds of values. -/
inductive Kind where
  | null
  | boolean
  | number
  | string
  | array
  | object
  deriving DecidableEq

/-- The parts into which the reader of a text cuts it. -/
inductive Phrase where
  | value (kind : Kind)
  /-- What follows the bracket of an array, or an item of it. -/
  | items (first : Bool)
  /-- An item and all that follows it in its array. -/
  | item
  /-- What follows the brace of an object, or a member of it. -/
  | members (first : Bool)
  /-- A member behind the quote that opens its name, and all that follows it in its object. -/
  | member

/-- The texts of the parts: white space may stand around every one of them. -/
inductive Wellformed : Phrase → List Char → Prop where
  | null : Wellformed (.value .null) "null".toList
  | boolean (b : Bool) : Wellformed (.value .boolean) (boolChars b)
  | number {cs : List Char} (h : Numeral.IsNumeral cs) : Wellformed (.value .number) cs
  | string {body : List Char} (h : Page.StringBody body) : Wellformed (.value .string) ('"' :: body)
  | array {gap cs : List Char} (hgap : Blank gap) (hitems : Wellformed (.items true) cs) :
      Wellformed (.value .array) ('[' :: (gap ++ cs))
  | object {gap cs : List Char} (hgap : Blank gap) (hmembers : Wellformed (.members true) cs) :
      Wellformed (.value .object) ('\x7b' :: (gap ++ cs))
  | noItems (first : Bool) : Wellformed (.items first) [']']
  | firstItem {cs : List Char} (hitem : Wellformed .item cs) : Wellformed (.items true) cs
  | nextItem {gap cs : List Char} (hgap : Blank gap) (hitem : Wellformed .item cs) :
      Wellformed (.items false) (',' :: (gap ++ cs))
  | item {kind : Kind} {cs gap ds : List Char} (hvalue : Wellformed (.value kind) cs)
      (hgap : Blank gap) (hrest : Wellformed (.items false) ds) :
      Wellformed .item (cs ++ (gap ++ ds))
  | noMembers (first : Bool) : Wellformed (.members first) ['\x7d']
  | firstMember {cs : List Char} (hmember : Wellformed .member cs) :
      Wellformed (.members true) ('"' :: cs)
  | nextMember {gap cs : List Char} (hgap : Blank gap) (hmember : Wellformed .member cs) :
      Wellformed (.members false) (',' :: (gap ++ '"' :: cs))
  | member {kind : Kind} {name before behind cs gap ds : List Char} (hname : Page.StringBody name)
      (hbefore : Blank before) (hbehind : Blank behind) (hvalue : Wellformed (.value kind) cs)
      (hgap : Blank gap) (hrest : Wellformed (.members false) ds) :
      Wellformed .member (name ++ (before ++ ':' :: (behind ++ (cs ++ (gap ++ ds)))))

/-! ## What parts begin with -/

theorem Wellformed.value_head {kind : Kind} {cs : List Char} (h : Wellformed (.value kind) cs) :
    ∃ c tail, cs = c :: tail ∧ Cursor.isSpace c = false ∧ c ≠ ']' := by
  cases h with
  | null => exact ⟨'n', _, rfl, by decide⟩
  | boolean b => cases b <;> exact ⟨_, _, rfl, by decide⟩
  | number hn =>
      obtain ⟨c, tail, htext, hc⟩ := hn.exists_head
      refine ⟨c, tail, htext, ?_, ?_⟩
      · rcases hc with rfl | hc
        · rfl
        · rw [Bool.eq_false_iff]
          intro hspace
          rw [(no_numeral_of_isSpace hspace).1] at hc
          cases hc
      · rintro rfl
        revert hc
        decide
  | string => exact ⟨'"', _, rfl, by decide⟩
  | array => exact ⟨'[', _, rfl, by decide⟩
  | object => exact ⟨'\x7b', _, rfl, by decide⟩

theorem Wellformed.item_head {cs : List Char} (h : Wellformed .item cs) :
    ∃ c tail, cs = c :: tail ∧ Cursor.isSpace c = false ∧ c ≠ ']' := by
  cases h with
  | item hvalue _ _ =>
      obtain ⟨c, tail, rfl, hc⟩ := hvalue.value_head
      exact ⟨c, _, rfl, hc⟩

theorem Wellformed.items_head {cs : List Char} (h : Wellformed (.items true) cs) :
    ∃ c tail, cs = c :: tail ∧ Cursor.isSpace c = false := by
  cases h with
  | noItems => exact ⟨']', _, rfl, rfl⟩
  | firstItem hitem =>
      obtain ⟨c, tail, heq, hc, _⟩ := hitem.item_head
      exact ⟨c, tail, heq, hc⟩

theorem Wellformed.members_head {cs : List Char} (h : Wellformed (.members true) cs) :
    ∃ c tail, cs = c :: tail ∧ Cursor.isSpace c = false := by
  cases h with
  | noMembers => exact ⟨'\x7d', _, rfl, rfl⟩
  | firstMember => exact ⟨'"', _, rfl, rfl⟩

theorem Wellformed.nextItems_head {cs : List Char} (h : Wellformed (.items false) cs) :
    ∃ c tail, cs = c :: tail ∧ Closes c := by
  cases h with
  | noItems => exact ⟨']', _, rfl, .inl rfl⟩
  | nextItem => exact ⟨',', _, rfl, .inr (.inr rfl)⟩

theorem Wellformed.nextMembers_head {cs : List Char} (h : Wellformed (.members false) cs) :
    ∃ c tail, cs = c :: tail ∧ Closes c := by
  cases h with
  | noMembers => exact ⟨'\x7d', _, rfl, .inr (.inl rfl)⟩
  | nextMember => exact ⟨',', _, rfl, .inr (.inr rfl)⟩

/-! ## Reading the parts -/

/-- What a document of a kind is, between two places. -/
inductive DocOf (start stop : Place) (cs : List Char) : Kind → Doc → Prop where
  | null : DocOf start stop cs .null (.null (some start) (some stop))
  | boolean (b : Bool) : DocOf start stop cs .boolean (.bool b (some start) (some stop))
  | number {value : Except DecodeError JsonNumber} (h : Numeral.ReadsNumber cs value) :
      DocOf start stop cs .number (.number value (some start) (some stop))
  | string (value : Except DecodeError String) :
      DocOf start stop cs .string (.string value (some start) (some stop))
  | array (items : Items) : DocOf start stop cs .array (.array items (some start))
  | object (members : Members) : DocOf start stop cs .object (.object members (some start))

/-- To read a part off the front of a text: the reader stops behind it, and what it has read by
then has nothing to do with what follows. -/
def Phrase.Read : Phrase → List Char → Prop
  | .value kind, cs => ∀ place, ∃ doc stop, DocOf place stop cs kind doc ∧
      ∀ rest, Numeral.Ends rest → Page.valueAt ⟨place, cs ++ rest⟩ = (doc, some ⟨stop, rest⟩)
  | .items first, cs => ∀ place, ∃ items stop, ∀ rest,
      Page.itemsAt first ⟨place, cs ++ rest⟩ = (items, some ⟨stop, rest⟩)
  | .item, cs => ∀ place, ∃ items stop, ∀ rest,
      Page.itemAt ⟨place, cs ++ rest⟩ = (items, some ⟨stop, rest⟩)
  | .members first, cs => ∀ place, ∃ members stop, ∀ rest,
      Page.membersAt first ⟨place, cs ++ rest⟩ = (members, some ⟨stop, rest⟩)
  | .member, cs => ∀ start place, ∃ members stop, ∀ rest,
      Page.memberAt start ⟨place, cs ++ rest⟩ = (members, some ⟨stop, rest⟩)

theorem phrase_null : (Phrase.value .null).Read "null".toList := by
  intro place
  exact ⟨_, _, .null, fun rest _ => readWordValue_self "null" .nullWord .null place rest⟩

theorem phrase_boolean (b : Bool) : (Phrase.value .boolean).Read (boolChars b) := by
  intro place
  cases b with
  | true =>
      exact ⟨_, _, .boolean true, fun rest _ =>
        readWordValue_self "true" .plain (.bool true) place rest⟩
  | false =>
      exact ⟨_, _, .boolean false, fun rest _ =>
        readWordValue_self "false" .plain (.bool false) place rest⟩

/-- A number is read as what it stands for, or as the error that it is out of range. -/
theorem readsNumber {cs : List Char} {parts : Numeral} {length : Nat} {rest : List Char}
    (hscan : Numeral.scan? cs = .ok ⟨parts, length, rest⟩) (stop : Place) :
    Numeral.ReadsNumber cs (match parts.value? with
      | .ok n => .ok n
      | .error left => .error (.fault .numberOutOfRange
          (some { stop with column := stop.column - left }))) := by
  cases hvalue : parts.value? with
  | ok n => exact .number ⟨_, hscan, hvalue⟩
  | error left =>
      refine .outOfRange ?_ rfl
      rintro ⟨n, scan, hscan', hn⟩
      obtain rfl := Except.ok.inj (hscan.symm.trans hscan')
      rw [hvalue] at hn
      cases hn

theorem phrase_number {cs : List Char} (h : Numeral.IsNumeral cs) :
    (Phrase.value .number).Read cs := by
  intro place
  obtain ⟨parts, length, hscan⟩ := Numeral.scan?_numeral h
  have hself := hscan [] (fun c tail h => nomatch h)
  rw [List.append_nil] at hself
  obtain ⟨c, tail, rfl, hc⟩ := h.exists_head
  let stop : Place := { place with column := place.column + length }
  refine ⟨_, stop, .number (readsNumber hself stop), fun rest hrest => ?_⟩
  have hread : Page.valueAt ⟨place, c :: tail ++ rest⟩ =
      Page.readNumber ⟨place, c :: tail ++ rest⟩ := readValue_of_numeral hc _ place (tail ++ rest)
  rw [hread]
  simp only [Page.readNumber, hscan rest hrest]
  rfl

/-- A string is read as its text, or as the error that it has none. -/
theorem exists_readString {body : List Char} (h : Page.StringBody body) (place : Place) :
    ∃ value, Page.ReadsText body value ∧ ∀ rest,
      Page.valueAt ⟨place, '"' :: body ++ rest⟩ =
        (.string value (some place) (some ((place.past '"').pastAll body)),
          some ⟨(place.past '"').pastAll body, rest⟩) := by
  obtain ⟨value, hvalue, hread⟩ := Page.readStringValue_body h place (place.past '"')
  refine ⟨value, hvalue, fun rest => ?_⟩
  rw [List.cons_append, Page.valueAt_quote]
  exact hread rest

theorem phrase_string {body : List Char} (h : Page.StringBody body) :
    (Phrase.value .string).Read ('"' :: body) := by
  intro place
  obtain ⟨value, -, hread⟩ := exists_readString h place
  exact ⟨_, _, .string value, fun rest _ => hread rest⟩

section Arrays

variable {kind : Kind} {gap cs ds : List Char}

theorem phrase_array (hgap : Blank gap) (hitems : Wellformed (.items true) cs)
    (ih : (Phrase.items true).Read cs) : (Phrase.value .array).Read ('[' :: (gap ++ cs)) := by
  intro place
  obtain ⟨c, tail, rfl, hc⟩ := hitems.items_head
  obtain ⟨items, stop, hread⟩ := ih ((place.past '[').pastAll gap)
  refine ⟨_, stop, .array items, fun rest _ => ?_⟩
  have hskip := skipSpace_blank hgap (tail ++ rest) hc (place.past '[')
  rw [List.cons_append, List.append_assoc, Page.valueAt_bracket, List.cons_append, hskip,
    ← List.cons_append, hread]

theorem phrase_noItems (first : Bool) : (Phrase.items first).Read [']'] := by
  intro place
  exact ⟨_, _, fun rest => Page.itemsAt_close first place rest⟩

theorem phrase_firstItem (hitem : Wellformed .item cs) (ih : Phrase.item.Read cs) :
    (Phrase.items true).Read cs := by
  intro place
  obtain ⟨c, tail, rfl, _, hc⟩ := hitem.item_head
  obtain ⟨items, stop, hread⟩ := ih place
  exact ⟨items, stop, fun rest => (Page.itemsAt_first hc).trans (hread rest)⟩

theorem phrase_nextItem (hgap : Blank gap) (hitem : Wellformed .item cs)
    (ih : Phrase.item.Read cs) : (Phrase.items false).Read (',' :: (gap ++ cs)) := by
  intro place
  obtain ⟨c, tail, rfl, hspace, hc⟩ := hitem.item_head
  obtain ⟨items, stop, hread⟩ := ih ((place.past ',').pastAll gap)
  refine ⟨items, stop, fun rest => ?_⟩
  have hskip := skipSpace_blank hgap (tail ++ rest) hspace (place.past ',')
  rw [List.cons_append, List.append_assoc]
  exact (Page.itemsAt_comma hskip hc).trans (hread rest)

theorem phrase_item (hgap : Blank gap) (hrest : Wellformed (.items false) ds)
    (ihvalue : (Phrase.value kind).Read cs) (ihrest : (Phrase.items false).Read ds) :
    Phrase.item.Read (cs ++ (gap ++ ds)) := by
  intro place
  obtain ⟨c, tail, rfl, hc⟩ := hrest.nextItems_head
  obtain ⟨doc, stop, -, hread⟩ := ihvalue place
  obtain ⟨items, last, hreads⟩ := ihrest (stop.pastAll gap)
  refine ⟨.item doc items, last, fun rest => ?_⟩
  have hvalue := hread (gap ++ c :: (tail ++ rest)) (hc.ends hgap _)
  have hskip := skipSpace_blank hgap (tail ++ rest) hc.not_space stop
  simp only [List.append_assoc, List.cons_append]
  rw [Page.itemAt_of_valueAt hvalue, hskip, ← List.cons_append, hreads]

end Arrays

section Objects

variable {kind : Kind} {name before behind gap cs ds : List Char}

theorem phrase_object (hgap : Blank gap) (hmembers : Wellformed (.members true) cs)
    (ih : (Phrase.members true).Read cs) :
    (Phrase.value .object).Read ('\x7b' :: (gap ++ cs)) := by
  intro place
  obtain ⟨c, tail, rfl, hc⟩ := hmembers.members_head
  obtain ⟨members, stop, hread⟩ := ih ((place.past '\x7b').pastAll gap)
  refine ⟨_, stop, .object members, fun rest _ => ?_⟩
  have hskip := skipSpace_blank hgap (tail ++ rest) hc (place.past '\x7b')
  rw [List.cons_append, List.append_assoc, Page.valueAt_brace, List.cons_append, hskip,
    ← List.cons_append, hread]

theorem phrase_noMembers (first : Bool) : (Phrase.members first).Read ['\x7d'] := by
  intro place
  exact ⟨_, _, fun rest => Page.membersAt_close first place rest⟩

theorem phrase_firstMember (ih : Phrase.member.Read cs) :
    (Phrase.members true).Read ('"' :: cs) := by
  intro place
  obtain ⟨members, stop, hread⟩ := ih place (place.past '"')
  exact ⟨members, stop, fun rest => (Page.membersAt_quote place _).trans (hread rest)⟩

theorem phrase_nextMember (hgap : Blank gap) (ih : (Phrase.members true).Read ('"' :: cs)) :
    (Phrase.members false).Read (',' :: (gap ++ '"' :: cs)) := by
  intro place
  obtain ⟨members, stop, hread⟩ := ih ((place.past ',').pastAll gap)
  refine ⟨members, stop, fun rest => ?_⟩
  have hskip := skipSpace_blank hgap (cs ++ rest) (c := '"') rfl (place.past ',')
  rw [List.cons_append, List.append_assoc]
  exact (Page.membersAt_comma hskip).trans (hread rest)

/-- A member is read as its name, its value, and whatever follows them. Name and place of the value
do not depend on the value. -/
theorem exists_readKey (hname : Page.StringBody name) (hbefore : Blank before)
    (hbehind : Blank behind) (start place : Place) :
    ∃ key inside, Page.ReadsText name key.name ∧
      ∀ {kind cs doc stop rest}, Wellformed (.value kind) cs →
        Page.valueAt ⟨inside, cs ++ rest⟩ = (doc, some ⟨stop, rest⟩) →
          Page.memberAt start ⟨place, name ++ (before ++ ':' :: (behind ++ (cs ++ rest)))⟩ =
            (.member key doc (some (Cursor.mk stop rest).skipSpace.place)
              (Page.membersAt false (Cursor.mk stop rest).skipSpace).1,
              (Page.membersAt false (Cursor.mk stop rest).skipSpace).2) := by
  obtain ⟨text, htext, hreadName⟩ := Page.readStringValue_body hname start place
  refine ⟨⟨text, some (place.pastAll name), some ((place.pastAll name).pastAll before)⟩,
    (((place.pastAll name).pastAll before).past ':').pastAll behind, htext, ?_⟩
  intro kind cs doc stop rest hvalue hread
  obtain ⟨b, head, rfl, hb, _⟩ := hvalue.value_head
  have hcolon := skipSpace_blank hbefore (c := ':') (behind ++ b :: (head ++ rest)) rfl
    (place.pastAll name)
  have hskip := skipSpace_blank hbehind (head ++ rest) hb
    (((place.pastAll name).pastAll before).past ':')
  rw [List.cons_append, ← hskip] at hread
  exact Page.memberAt_of_valueAt (hreadName _) hcolon hread

theorem phrase_member (hname : Page.StringBody name) (hbefore : Blank before)
    (hbehind : Blank behind) (hvalue : Wellformed (.value kind) cs) (hgap : Blank gap)
    (hrest : Wellformed (.members false) ds) (ihvalue : (Phrase.value kind).Read cs)
    (ihrest : (Phrase.members false).Read ds) :
    Phrase.member.Read (name ++ (before ++ ':' :: (behind ++ (cs ++ (gap ++ ds))))) := by
  intro start place
  obtain ⟨c, tail, rfl, hc⟩ := hrest.nextMembers_head
  obtain ⟨key, inside, -, hmember⟩ := exists_readKey hname hbefore hbehind start place
  obtain ⟨doc, stop, -, hread⟩ := ihvalue inside
  obtain ⟨members, last, hreads⟩ := ihrest (stop.pastAll gap)
  refine ⟨.member key doc (some (stop.pastAll gap)) members, last, fun rest => ?_⟩
  have hmember := hmember hvalue (hread (gap ++ c :: (tail ++ rest)) (hc.ends hgap _))
  have hskip := skipSpace_blank hgap (tail ++ rest) hc.not_space stop
  have hlater := hreads rest
  rw [List.cons_append] at hlater
  rw [hskip, hlater] at hmember
  simpa only [List.append_assoc, List.cons_append] using hmember

end Objects

/-- **Every part is read off each of its texts**, whatever follows. -/
theorem Wellformed.read {phrase : Phrase} {cs : List Char} (h : Wellformed phrase cs) :
    phrase.Read cs := by
  induction h with
  | null => exact phrase_null
  | boolean b => exact phrase_boolean b
  | number h => exact phrase_number h
  | string h => exact phrase_string h
  | array hgap hitems ih => exact phrase_array hgap hitems ih
  | object hgap hmembers ih => exact phrase_object hgap hmembers ih
  | noItems first => exact phrase_noItems first
  | firstItem hitem ih => exact phrase_firstItem hitem ih
  | nextItem hgap hitem ih => exact phrase_nextItem hgap hitem ih
  | item _ hgap hrest ihvalue ihrest => exact phrase_item hgap hrest ihvalue ihrest
  | noMembers first => exact phrase_noMembers first
  | firstMember _ ih => exact phrase_firstMember ih
  | nextMember hgap _ ih => exact phrase_nextMember hgap (phrase_firstMember ih)
  | member hname hbefore hbehind hvalue hgap hrest ihvalue ihrest =>
      exact phrase_member hname hbefore hbehind hvalue hgap hrest ihvalue ihrest

/-! ## Members in front of others -/

/-- Members with a comma behind each of them, and white space. -/
inductive Leading : List Char → Prop where
  | nil : Leading []
  | member {kind : Kind} {name before behind cs gap gap' rest : List Char}
      (hname : Page.StringBody name) (hbefore : Blank before) (hbehind : Blank behind)
      (hvalue : Wellformed (.value kind) cs) (hgap : Blank gap) (hgap' : Blank gap')
      (hrest : Leading rest) :
      Leading ('"' :: (name ++ (before ++ ':' :: (behind ++ (cs ++ (gap ++ ',' :: (gap' ++ rest)))))))

/-- A member that has been read: its name, its value and the place behind. -/
structure Passed where
  key : Key
  value : Doc
  after : Spot

/-- Members that go on behind those that have been passed. -/
def passing (passed : List Passed) (rest : Members) : Members :=
  passed.foldr (fun member rest => .member member.key member.value member.after rest) rest

theorem Leading.append_quote {cs : List Char} (h : Leading cs) (tail : List Char) :
    ∃ ds, cs ++ '"' :: tail = '"' :: ds := by
  cases h with
  | nil => exact ⟨tail, rfl⟩
  | member => exact ⟨_, rfl⟩

/-- **Members in front of others are read before them**, whatever the others are. -/
theorem Leading.read {cs : List Char} (h : Leading cs) (place : Place) :
    ∃ passed last, ∀ tail,
      Page.membersAt true ⟨place, cs ++ '"' :: tail⟩ =
        (passing passed (Page.membersAt true ⟨last, '"' :: tail⟩).1,
          (Page.membersAt true ⟨last, '"' :: tail⟩).2) := by
  induction h generalizing place with
  | nil => exact ⟨[], place, fun tail => rfl⟩
  | @member kind name before behind cs gap gap' rest hname hbefore hbehind hvalue hgap hgap' hrest
      ih =>
      obtain ⟨key, inside, -, hmember⟩ := exists_readKey hname hbefore hbehind place
        (place.past '"')
      obtain ⟨doc, stop, -, hread⟩ := hvalue.read inside
      obtain ⟨passed, last, hlater⟩ := ih (((stop.pastAll gap).past ',').pastAll gap')
      refine ⟨⟨key, doc, some (stop.pastAll gap)⟩ :: passed, last, fun tail => ?_⟩
      obtain ⟨ds, hds⟩ := hrest.append_quote tail
      have hcomma : Closes ',' := .inr (.inr rfl)
      have hmember := hmember hvalue
        (hread (gap ++ ',' :: (gap' ++ (rest ++ '"' :: tail))) (hcomma.ends hgap _))
      have hskip := skipSpace_blank hgap (gap' ++ (rest ++ '"' :: tail)) hcomma.not_space stop
      have hskip' := skipSpace_blank hgap' ds (c := '"') rfl ((stop.pastAll gap).past ',')
      rw [← hds] at hskip'
      rw [hskip, Page.membersAt_comma (hskip'.trans (by rw [hds])), ← hds, hlater] at hmember
      simp only [List.cons_append, List.append_assoc]
      rw [Page.membersAt_quote, hmember]
      rfl

end Json

end Preflight
