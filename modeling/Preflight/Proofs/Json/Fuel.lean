import Preflight.Proofs.Json.Scalars

/-!
# Fuel does not show

The reader of a document is a recursion with fuel, and a page is given as much as its
text can use up. What it would do with more is the same, so a page is read as if there
were no fuel: by `valueAt`, `itemsAt` and so on, which supply what is needed to the
text that is left, and which call each other as the reader does.

The proof is the count that the reader is built on. Whatever is read takes at least one
character (`Advances`), and between two characters there are at most three calls
(`Steady`).

## Main results

* `Page.readValue_eq` and its siblings — with enough fuel, every part is read as it is
  read without any.
* `Page.valueAt_bracket`, `Page.valueAt_brace`, … — the calls of the reader, free of fuel.
-/

namespace Preflight

namespace Cursor

theorem length_skipSpaceFrom (place : Place) (cs : List Char) :
    (skipSpaceFrom place cs).rest.length ≤ cs.length := by
  induction cs generalizing place with
  | nil => exact Nat.le_refl _
  | cons c cs ih =>
      rw [skipSpaceFrom]
      split
      · exact Nat.le_succ_of_le (ih _)
      · exact Nat.le_refl _

theorem length_skipSpace (at' : Cursor) : at'.skipSpace.rest.length ≤ at'.rest.length :=
  length_skipSpaceFrom at'.place at'.rest

end Cursor

namespace Numeral

theorem length_dropWhile (cs : List Char) :
    (cs.dropWhile Text.isDecimalDigit).length ≤ cs.length :=
  (List.dropWhile_suffix _).length_le

theorem length_scanMinus (cs : List Char) : (scanMinus cs).2.2.length ≤ cs.length := by
  unfold scanMinus
  split
  · exact Nat.le_succ _
  · exact Nat.le_refl _

theorem length_scanSign (cs : List Char) : (scanSign cs).2.2.length ≤ cs.length := by
  unfold scanSign
  split
  · exact Nat.le_succ _
  · exact Nat.le_succ _
  · exact Nat.le_refl _

theorem length_scanWhole {distance : Nat} {cs : List Char} {result : List Char × List Char}
    (h : scanWhole distance cs = .ok result) : result.2.length < cs.length := by
  unfold scanWhole at h
  split at h
  · split at h
    · split at h
      · cases h
      · obtain rfl := Except.ok.inj h
        exact Nat.lt_succ_self _
    · obtain rfl := Except.ok.inj h
      exact Nat.lt_succ_self _
  · dsimp only at h
    split at h
    · cases h
    · rename_i hdigits
      obtain rfl := Except.ok.inj h
      -- Some digits were taken, and the text is made of them and what was left.
      have hsplit := congrArg List.length
        (List.takeWhile_append_dropWhile (p := Text.isDecimalDigit) (l := cs))
      rw [List.length_append] at hsplit
      have hpos : 0 < (cs.takeWhile Text.isDecimalDigit).length :=
        List.length_pos_iff.mpr fun heq => hdigits (by rw [heq]; rfl)
      dsimp only
      omega

theorem length_scanFraction {distance : Nat} {cs : List Char}
    {result : Option (List Char) × List Char} (h : scanFraction distance cs = .ok result) :
    result.2.length ≤ cs.length := by
  unfold scanFraction at h
  split at h
  · dsimp only at h
    split at h
    · cases h
    · obtain rfl := Except.ok.inj h
      exact Nat.le_succ_of_le (length_dropWhile _)
  · obtain rfl := Except.ok.inj h
    exact Nat.le_refl _

theorem length_scanExponent {distance : Nat} {cs : List Char}
    {result : Option (Bool × List Char) × Nat × List Char}
    (h : scanExponent distance cs = .ok result) : result.2.2.length ≤ cs.length := by
  unfold scanExponent at h
  split at h
  · obtain rfl := Except.ok.inj h
    exact Nat.le_refl _
  · rename_i c rest
    split at h
    · dsimp only at h
      split at h
      · cases h
      · obtain rfl := Except.ok.inj h
        exact Nat.le_succ_of_le (Nat.le_trans (length_dropWhile _) (length_scanSign rest))
    · obtain rfl := Except.ok.inj h
      exact Nat.le_refl _

theorem length_scan? {cs : List Char} {scan : Scan} (h : scan? cs = .ok scan) :
    scan.rest.length < cs.length := by
  unfold scan? at h
  have hminus := length_scanMinus cs
  cases hwhole : scanWhole (scanMinus cs).2.1 (scanMinus cs).2.2 with
  | error fault => simp [hwhole, bind, Except.bind] at h
  | ok whole =>
      have hwholeLength := length_scanWhole hwhole
      simp only [hwhole, bind, Except.bind] at h
      split at h
      · cases h
      · rename_i fraction hfraction
        have hfractionLength := length_scanFraction hfraction
        split at h
        · cases h
        · rename_i exponent hexponent
          have hexponentLength := length_scanExponent hexponent
          obtain rfl := Except.ok.inj h
          exact Nat.lt_of_le_of_lt hexponentLength (Nat.lt_of_le_of_lt hfractionLength
            (Nat.lt_of_lt_of_le hwholeLength hminus))

end Numeral

namespace Page

theorem length_readWord {letters : List Char} {at' stop : Cursor}
    (h : readWord letters at' = .ok stop) :
    stop.rest.length + letters.length = at'.rest.length := by
  induction letters generalizing at' with
  | nil =>
      obtain rfl : at' = stop := Except.ok.inj h
      rfl
  | cons letter letters ih =>
      rw [readWord] at h
      split at h
      · cases h
      · rename_i c rest hrest
        split at h
        · have hlater := ih h
          simp only [List.length_cons, hrest] at hlater ⊢
          omega
        · cases h

theorem length_skipString {pass : Nat} {place : Place} {cs : List Char} {stop : Cursor}
    (h : skipString pass place cs = .ok stop) : stop.rest.length < cs.length := by
  induction cs generalizing pass place with
  | nil => cases pass <;> cases h
  | cons c cs ih =>
      have hlater : ∀ {pass place}, skipString pass place cs = .ok stop →
          stop.rest.length < (c :: cs).length :=
        fun h => Nat.lt_succ_of_lt (ih h)
      cases pass with
      | succ pass => exact hlater h
      | zero =>
          rw [skipString] at h
          split at h
          · obtain rfl := Except.ok.inj h
            exact Nat.lt_succ_self _
          · split at h
            · split at h
              · cases h
              · exact hlater h
            · split at h
              · cases h
              · exact hlater h

/-- Some of the text has been taken by whoever stopped. -/
def Takes {α : Type} (text : List Char) (result : α × Option Cursor) : Prop :=
  ∀ stop, result.2 = some stop → stop.rest.length < text.length

theorem takes_none {α : Type} (text : List Char) (value : α) :
    Takes text (value, (none : Option Cursor)) := by
  intro stop h
  cases h

/-- Who takes some of a shorter text takes some of a longer one. -/
theorem Takes.mono {α β : Type} {text longer : List Char} {result : α × Option Cursor}
    (h : Takes text result) (hlength : text.length ≤ longer.length) (value : β) :
    Takes longer (value, result.2) :=
  fun stop hstop => Nat.lt_of_lt_of_le (h stop hstop) hlength

theorem takes_readWordValue (letter : Char) (letters : List Char) (opening : Opening)
    (make : Spot → Spot → Doc) (at' : Cursor) :
    Takes at'.rest (readWordValue (String.ofList (letter :: letters)) opening make at') := by
  unfold readWordValue
  rw [String.toList_ofList]
  split
  · exact takes_none _ _
  · rename_i stop hstop
    rintro _ ⟨⟩
    have hlength := length_readWord hstop
    rw [List.length_cons] at hlength
    omega

theorem takes_readStringValue (start inside : Place) (rest : List Char) :
    Takes rest (readStringValue start inside rest) := by
  unfold readStringValue
  dsimp only
  split
  · rename_i stop hstop
    rintro _ ⟨⟩
    exact length_skipString hstop
  · exact takes_none _ _

theorem takes_readNumber (start : Cursor) : Takes start.rest (readNumber start) := by
  unfold readNumber
  split
  · exact takes_none _ _
  · rename_i scan hscan
    rintro _ ⟨⟩
    exact Numeral.length_scan? hscan

/-- With this much fuel, every reader that stops has taken some of the text. -/
structure Advances (fuel : Nat) : Prop where
  value : ∀ at' : Cursor, Takes at'.rest (readValue fuel at')
  items : ∀ first (at' : Cursor), Takes at'.rest (readItems fuel first at')
  item : ∀ at' : Cursor, Takes at'.rest (readItem fuel at')
  members : ∀ first (at' : Cursor), Takes at'.rest (readMembers fuel first at')
  member : ∀ start (at' : Cursor), Takes at'.rest (readMember fuel start at')

theorem advances_zero : Advances 0 where
  value at' := by rw [readValue]; exact takes_none _ _
  items first at' := by rw [readItems]; exact takes_none _ _
  item at' := by rw [readItem]; exact takes_none _ _
  members first at' := by rw [readMembers]; exact takes_none _ _
  member start at' := by rw [readMember]; exact takes_none _ _

section Advancing

variable {fuel : Nat} (h : Advances fuel)
include h

theorem takes_readValue_succ (at' : Cursor) : Takes at'.rest (readValue (fuel + 1) at') := by
  obtain ⟨place, cs⟩ := at'
  rw [readValue]
  dsimp only
  split
  · exact takes_none _ _
  · rename_i c rest
    have hskip : (Cursor.mk (place.past c) rest).skipSpace.rest.length ≤ (c :: rest).length :=
      Nat.le_succ_of_le (Cursor.length_skipSpace _)
    split_ifs
    · exact takes_readWordValue 'n' ['u', 'l', 'l'] _ _ _
    · exact takes_readWordValue 't' ['r', 'u', 'e'] _ _ _
    · exact takes_readWordValue 'f' ['a', 'l', 's', 'e'] _ _ _
    · exact (takes_readStringValue place (place.past c) rest).mono (Nat.le_succ _) _
    · exact takes_readNumber ⟨place, c :: rest⟩
    · exact (h.items true (Cursor.mk (place.past c) rest).skipSpace).mono hskip _
    · exact (h.members true (Cursor.mk (place.past c) rest).skipSpace).mono hskip _
    · exact takes_none _ _

theorem takes_readItems_succ (first : Bool) (at' : Cursor) :
    Takes at'.rest (readItems (fuel + 1) first at') := by
  obtain ⟨place, cs⟩ := at'
  rw [readItems]
  dsimp only
  split
  · exact takes_none _ _
  · rename_i c rest
    have hskip : (Cursor.mk (place.past c) rest).skipSpace.rest.length ≤ (c :: rest).length :=
      Nat.le_succ_of_le (Cursor.length_skipSpace _)
    split_ifs
    · rintro _ ⟨⟩
      exact Nat.lt_succ_self _
    · exact h.item ⟨place, c :: rest⟩
    · split
      · exact takes_none _ _
      · exact takes_none _ _
      · exact (h.item (Cursor.mk (place.past c) rest).skipSpace).mono hskip _
    · exact takes_none _ _

theorem takes_readItem_succ (at' : Cursor) : Takes at'.rest (readItem (fuel + 1) at') := by
  have hvalue := h.value at'
  rw [readItem]
  split
  · exact takes_none _ _
  · rename_i value stop hread
    rw [hread] at hvalue
    have hstop := Nat.lt_of_le_of_lt (Cursor.length_skipSpace stop) (hvalue stop rfl)
    exact (h.items false stop.skipSpace).mono (Nat.le_of_lt hstop) _

theorem takes_readMembers_succ (first : Bool) (at' : Cursor) :
    Takes at'.rest (readMembers (fuel + 1) first at') := by
  obtain ⟨place, cs⟩ := at'
  rw [readMembers]
  dsimp only
  split
  · exact takes_none _ _
  · rename_i c rest
    have hskip : (Cursor.mk (place.past c) rest).skipSpace.rest.length ≤ (c :: rest).length :=
      Nat.le_succ_of_le (Cursor.length_skipSpace _)
    split_ifs
    · rintro _ ⟨⟩
      exact Nat.lt_succ_self _
    · exact (h.member place ⟨place.past c, rest⟩).mono (Nat.le_succ _) _
    · exact takes_none _ _
    · split
      · exact takes_none _ _
      · rename_i d behind hbehind
        rw [hbehind, List.length_cons] at hskip
        split_ifs
        · exact (h.member _ ⟨_, behind⟩).mono (Nat.le_of_succ_le hskip) _
        · exact takes_none _ _
        · exact takes_none _ _
    · exact takes_none _ _

theorem takes_readMember_succ (start : Place) (at' : Cursor) :
    Takes at'.rest (readMember (fuel + 1) start at') := by
  have hname := takes_readStringValue start at'.place at'.rest
  rw [readMember]
  split
  · rename_i name opening stop behind hread
    rw [hread] at hname
    have hbehind := Nat.le_trans (Cursor.length_skipSpace behind) (Nat.le_of_lt (hname _ rfl))
    dsimp only
    split
    · rename_i rest hcolon
      rw [hcolon, List.length_cons] at hbehind
      have hvalue := h.value (Cursor.mk (behind.skipSpace.place.past ':') rest).skipSpace
      have hskip := Cursor.length_skipSpace (Cursor.mk (behind.skipSpace.place.past ':') rest)
      split
      · exact takes_none _ _
      · rename_i stop hstop
        have hlater := Nat.lt_of_le_of_lt (Cursor.length_skipSpace stop) (hvalue stop hstop)
        dsimp only at hskip
        exact (h.members false stop.skipSpace).mono (by omega) _
    · exact takes_none _ _
  · exact takes_none _ _
  · exact takes_none _ _

end Advancing

/-- Every reader that stops has taken some of the text. -/
theorem advances (fuel : Nat) : Advances fuel := by
  induction fuel with
  | zero => exact advances_zero
  | succ fuel ih =>
      exact ⟨takes_readValue_succ ih, takes_readItems_succ ih, takes_readItem_succ ih,
        takes_readMembers_succ ih, takes_readMember_succ ih⟩

/-- With this much fuel, one call more would change nothing. -/
structure Steady (fuel : Nat) : Prop where
  value : ∀ at' : Cursor, 3 * at'.rest.length + 1 ≤ fuel →
    readValue (fuel + 1) at' = readValue fuel at'
  items : ∀ first (at' : Cursor), 3 * at'.rest.length + 3 ≤ fuel →
    readItems (fuel + 1) first at' = readItems fuel first at'
  item : ∀ at' : Cursor, 3 * at'.rest.length + 2 ≤ fuel →
    readItem (fuel + 1) at' = readItem fuel at'
  members : ∀ first (at' : Cursor), 3 * at'.rest.length + 3 ≤ fuel →
    readMembers (fuel + 1) first at' = readMembers fuel first at'
  member : ∀ start (at' : Cursor), 3 * at'.rest.length + 2 ≤ fuel →
    readMember (fuel + 1) start at' = readMember fuel start at'

section Steadying

variable {fuel : Nat} (h : Steady fuel)
include h

theorem steady_value {at' : Cursor} (hfuel : 3 * at'.rest.length + 1 ≤ fuel + 1) :
    readValue (fuel + 2) at' = readValue (fuel + 1) at' := by
  obtain ⟨place, cs⟩ := at'
  cases cs with
  | nil => rfl
  | cons c rest =>
      have hskip := Cursor.length_skipSpace ⟨place.past c, rest⟩
      dsimp only [List.length_cons] at hfuel hskip
      have hitems := h.items true (Cursor.mk (place.past c) rest).skipSpace (by omega)
      have hmembers := h.members true (Cursor.mk (place.past c) rest).skipSpace (by omega)
      rw [readValue, readValue]
      dsimp only
      rw [hitems, hmembers]

theorem steady_items {first : Bool} {at' : Cursor} (hfuel : 3 * at'.rest.length + 3 ≤ fuel + 1) :
    readItems (fuel + 2) first at' = readItems (fuel + 1) first at' := by
  obtain ⟨place, cs⟩ := at'
  cases cs with
  | nil => rfl
  | cons c rest =>
      have hskip := Cursor.length_skipSpace ⟨place.past c, rest⟩
      dsimp only [List.length_cons] at hfuel hskip
      have hitem := h.item ⟨place, c :: rest⟩ (by dsimp only [List.length_cons]; omega)
      have hnext := h.item (Cursor.mk (place.past c) rest).skipSpace (by omega)
      rw [readItems, readItems]
      dsimp only
      rw [hitem, hnext]

theorem steady_item {at' : Cursor} (hfuel : 3 * at'.rest.length + 2 ≤ fuel + 1) :
    readItem (fuel + 2) at' = readItem (fuel + 1) at' := by
  have htakes := (advances fuel).value at'
  rw [readItem, readItem, h.value at' (by omega)]
  cases hvalue : readValue fuel at' with
  | mk value stop =>
      cases stop with
      | none => rfl
      | some stop =>
          rw [hvalue] at htakes
          have hstop := htakes stop rfl
          have hskip := Cursor.length_skipSpace stop
          dsimp only
          rw [h.items false stop.skipSpace (by omega)]

theorem steady_members {first : Bool} {at' : Cursor}
    (hfuel : 3 * at'.rest.length + 3 ≤ fuel + 1) :
    readMembers (fuel + 2) first at' = readMembers (fuel + 1) first at' := by
  obtain ⟨place, cs⟩ := at'
  cases cs with
  | nil => rfl
  | cons c rest =>
      have hskip := Cursor.length_skipSpace ⟨place.past c, rest⟩
      dsimp only [List.length_cons] at hfuel hskip
      have hvalue := h.value ⟨place, c :: rest⟩ (by dsimp only [List.length_cons]; omega)
      have hfirst := h.member place ⟨place.past c, rest⟩ (by dsimp only; omega)
      rw [readMembers, readMembers]
      dsimp only
      rw [hvalue, hfirst]
      cases hbehind : (Cursor.mk (place.past c) rest).skipSpace.rest with
      | nil => rfl
      | cons d behind =>
          rw [hbehind, List.length_cons] at hskip
          dsimp only
          rw [h.member _ ⟨_, behind⟩ (by dsimp only; omega)]

theorem steady_member {start : Place} {at' : Cursor}
    (hfuel : 3 * at'.rest.length + 2 ≤ fuel + 1) :
    readMember (fuel + 2) start at' = readMember (fuel + 1) start at' := by
  have hname := takes_readStringValue start at'.place at'.rest
  rw [readMember, readMember]
  split
  · rename_i name opening stop behind hread
    rw [hread] at hname
    have hbehind := Nat.le_trans (Cursor.length_skipSpace behind) (Nat.le_of_lt (hname _ rfl))
    dsimp only
    split
    · rename_i rest hcolon
      rw [hcolon, List.length_cons] at hbehind
      have hskip := Cursor.length_skipSpace (Cursor.mk (behind.skipSpace.place.past ':') rest)
      dsimp only at hskip
      have htakes := (advances fuel).value
        (Cursor.mk (behind.skipSpace.place.past ':') rest).skipSpace
      rw [h.value _ (by omega)]
      split
      · rfl
      · rename_i last hlast
        have hstop := htakes last hlast
        have hafter := Cursor.length_skipSpace last
        rw [h.members false last.skipSpace (by omega)]
    · rfl
  · rfl
  · rfl

end Steadying

/-- Three calls for each character are all that a text can use up. -/
theorem steady (fuel : Nat) : Steady fuel := by
  induction fuel with
  | zero => constructor <;> intros <;> omega
  | succ fuel ih =>
      exact ⟨fun _ => steady_value ih, fun _ _ => steady_items ih, fun _ => steady_item ih,
        fun _ _ => steady_members ih, fun _ _ => steady_member ih⟩

/-- A function that is steady from a bound on has the value that it has there. -/
theorem eq_of_steady {α : Type} {f : Nat → α} {bound fuel : Nat}
    (h : ∀ fuel, bound ≤ fuel → f (fuel + 1) = f fuel) (hfuel : bound ≤ fuel) :
    f fuel = f bound := by
  obtain ⟨more, rfl⟩ := Nat.exists_eq_add_of_le hfuel
  induction more with
  | zero => rfl
  | succ more ih => rw [← Nat.add_assoc, h _ (Nat.le_add_right ..), ih (Nat.le_add_right ..)]

/-! ## Reading without fuel -/

/-- A value at a cursor, and the cursor behind it unless it breaks off. -/
def valueAt (at' : Cursor) : Doc × Option Cursor := readValue (3 * at'.rest.length + 1) at'

/-- The items of an array from a cursor on. -/
def itemsAt (first : Bool) (at' : Cursor) : Items × Option Cursor :=
  readItems (3 * at'.rest.length + 3) first at'

/-- An item and those that follow it. -/
def itemAt (at' : Cursor) : Items × Option Cursor := readItem (3 * at'.rest.length + 2) at'

/-- The members of an object from a cursor on. -/
def membersAt (first : Bool) (at' : Cursor) : Members × Option Cursor :=
  readMembers (3 * at'.rest.length + 3) first at'

/-- A member, from behind the opening quote of its name, and those that follow it. -/
def memberAt (start : Place) (at' : Cursor) : Members × Option Cursor :=
  readMember (3 * at'.rest.length + 2) start at'

section Unfueled

variable {fuel : Nat} {at' : Cursor}

theorem readValue_eq (h : 3 * at'.rest.length + 1 ≤ fuel) : readValue fuel at' = valueAt at' :=
  eq_of_steady (f := fun fuel => readValue fuel at') (fun fuel => (steady fuel).value at') h

theorem readItems_eq {first : Bool} (h : 3 * at'.rest.length + 3 ≤ fuel) :
    readItems fuel first at' = itemsAt first at' :=
  eq_of_steady (f := fun fuel => readItems fuel first at')
    (fun fuel => (steady fuel).items first at') h

theorem readItem_eq (h : 3 * at'.rest.length + 2 ≤ fuel) : readItem fuel at' = itemAt at' :=
  eq_of_steady (f := fun fuel => readItem fuel at') (fun fuel => (steady fuel).item at') h

theorem readMembers_eq {first : Bool} (h : 3 * at'.rest.length + 3 ≤ fuel) :
    readMembers fuel first at' = membersAt first at' :=
  eq_of_steady (f := fun fuel => readMembers fuel first at')
    (fun fuel => (steady fuel).members first at') h

theorem readMember_eq_memberAt {start : Place} (h : 3 * at'.rest.length + 2 ≤ fuel) :
    readMember fuel start at' = memberAt start at' :=
  eq_of_steady (f := fun fuel => readMember fuel start at')
    (fun fuel => (steady fuel).member start at') h

end Unfueled

/-! ### What the calls come to -/

section Calls

variable {place inside colon : Place} {rest tail : List Char} {c : Char}

theorem valueAt_cons (place : Place) (c : Char) (rest : List Char) :
    valueAt ⟨place, c :: rest⟩ = readValue (3 * rest.length + 4) ⟨place, c :: rest⟩ := rfl

theorem valueAt_quote (place : Place) (rest : List Char) :
    valueAt ⟨place, '"' :: rest⟩ = readStringValue place (place.past '"') rest := by
  rw [valueAt_cons]
  simp [readValue]

theorem valueAt_bracket (place : Place) (rest : List Char) :
    valueAt ⟨place, '[' :: rest⟩ =
      (.array (itemsAt true (Cursor.mk (place.past '[') rest).skipSpace).1 (some place),
        (itemsAt true (Cursor.mk (place.past '[') rest).skipSpace).2) := by
  let inside := (Cursor.mk (place.past '[') rest).skipSpace
  have hinside : inside.rest.length ≤ rest.length := Cursor.length_skipSpace _
  have hitems : readItems (3 * rest.length + 3) true inside = _ := readItems_eq (by omega)
  rw [valueAt_cons, readValue]
  simp [← hitems, inside, Text.isDecimalDigit]

theorem valueAt_brace (place : Place) (rest : List Char) :
    valueAt ⟨place, '\x7b' :: rest⟩ =
      (.object (membersAt true (Cursor.mk (place.past '\x7b') rest).skipSpace).1 (some place),
        (membersAt true (Cursor.mk (place.past '\x7b') rest).skipSpace).2) := by
  let inside := (Cursor.mk (place.past '\x7b') rest).skipSpace
  have hinside : inside.rest.length ≤ rest.length := Cursor.length_skipSpace _
  have hmembers : readMembers (3 * rest.length + 3) true inside = _ := readMembers_eq (by omega)
  rw [valueAt_cons, readValue]
  simp [← hmembers, inside, Text.isDecimalDigit]

theorem itemsAt_cons (first : Bool) (place : Place) (c : Char) (rest : List Char) :
    itemsAt first ⟨place, c :: rest⟩ = readItems (3 * rest.length + 6) first ⟨place, c :: rest⟩ :=
  rfl

theorem itemsAt_close (first : Bool) (place : Place) (rest : List Char) :
    itemsAt first ⟨place, ']' :: rest⟩ =
      (.closed (some (place.past ']')), some ⟨place.past ']', rest⟩) := by
  rw [itemsAt_cons]
  simp [readItems]

theorem itemsAt_first (hc : c ≠ ']') : itemsAt true ⟨place, c :: rest⟩ = itemAt ⟨place, c :: rest⟩ := by
  have hitem : readItem (3 * rest.length + 5) ⟨place, c :: rest⟩ = itemAt ⟨place, c :: rest⟩ :=
    readItem_eq (by simp only [List.length_cons]; omega)
  rw [itemsAt_cons, readItems]
  simp [hc, hitem]

theorem itemsAt_comma (hskip : (Cursor.mk (place.past ',') rest).skipSpace = ⟨inside, c :: tail⟩)
    (hc : c ≠ ']') : itemsAt false ⟨place, ',' :: rest⟩ = itemAt ⟨inside, c :: tail⟩ := by
  have hlength := Cursor.length_skipSpace ⟨place.past ',', rest⟩
  rw [hskip] at hlength
  have hitem : readItem (3 * rest.length + 5) ⟨inside, c :: tail⟩ = itemAt ⟨inside, c :: tail⟩ :=
    readItem_eq (by dsimp only at hlength ⊢; omega)
  rw [itemsAt_cons, readItems]
  simp only [Char.reduceEq, ↓reduceIte, Bool.false_eq_true, hskip]
  split
  case h_1 heq => cases heq
  case h_2 heq => exact absurd (List.cons.inj heq).1 hc
  case h_3 => exact hitem

theorem itemAt_of_valueAt {at' reached : Cursor} {doc : Doc}
    (hvalue : valueAt at' = (doc, some reached)) :
    itemAt at' = (.item doc (itemsAt false reached.skipSpace).1,
      (itemsAt false reached.skipSpace).2) := by
  have hread : readValue (3 * at'.rest.length + 1) at' = (doc, some reached) := hvalue
  have hlength := (advances _).value at' reached (by rw [hread])
  have hskip := Cursor.length_skipSpace reached
  have hitems : readItems (3 * at'.rest.length + 1) false reached.skipSpace = _ :=
    readItems_eq (by omega)
  rw [itemAt, readItem, hread]
  dsimp only
  rw [hitems]

theorem membersAt_cons (first : Bool) (place : Place) (c : Char) (rest : List Char) :
    membersAt first ⟨place, c :: rest⟩ =
      readMembers (3 * rest.length + 6) first ⟨place, c :: rest⟩ :=
  rfl

theorem membersAt_close (first : Bool) (place : Place) (rest : List Char) :
    membersAt first ⟨place, '\x7d' :: rest⟩ =
      (.closed (some (place.past '\x7d')), some ⟨place.past '\x7d', rest⟩) := by
  rw [membersAt_cons]
  simp [readMembers]

theorem membersAt_quote (place : Place) (rest : List Char) :
    membersAt true ⟨place, '"' :: rest⟩ = memberAt place ⟨place.past '"', rest⟩ := by
  have hmember : readMember (3 * rest.length + 5) place ⟨place.past '"', rest⟩ = _ :=
    readMember_eq_memberAt (by dsimp only; omega)
  rw [membersAt_cons, readMembers]
  simp [hmember]

/-- Behind a comma the members go on as if they began there. -/
theorem membersAt_comma
    (hskip : (Cursor.mk (place.past ',') rest).skipSpace = ⟨inside, '"' :: tail⟩) :
    membersAt false ⟨place, ',' :: rest⟩ = membersAt true ⟨inside, '"' :: tail⟩ := by
  have hlength := Cursor.length_skipSpace ⟨place.past ',', rest⟩
  rw [hskip] at hlength
  have hmember : readMember (3 * rest.length + 5) inside ⟨inside.past '"', tail⟩ = _ :=
    readMember_eq_memberAt (by simp only [List.length_cons] at hlength ⊢; omega)
  rw [membersAt_quote, membersAt_cons, readMembers]
  simp [hskip, hmember]

theorem memberAt_of_valueAt {start : Place} {chars : List Char} {behind reached : Cursor}
    {name : Except DecodeError String} {opening nameStop : Spot} {doc : Doc}
    (hname : readStringValue start inside chars = (.string name opening nameStop, some behind))
    (hcolon : behind.skipSpace = ⟨colon, ':' :: tail⟩)
    (hvalue : valueAt (Cursor.mk (colon.past ':') tail).skipSpace = (doc, some reached)) :
    memberAt start ⟨inside, chars⟩ =
      (.member ⟨name, nameStop, some colon⟩ doc (some reached.skipSpace.place)
        (membersAt false reached.skipSpace).1, (membersAt false reached.skipSpace).2) := by
  have hchars := takes_readStringValue start inside chars
  rw [hname] at hchars
  have hbehind := hchars behind rfl
  have hgap := Cursor.length_skipSpace behind
  have hinside := Cursor.length_skipSpace ⟨colon.past ':', tail⟩
  rw [hcolon, List.length_cons] at hgap
  dsimp only at hinside
  have hread : readValue (3 * chars.length + 1) (Cursor.mk (colon.past ':') tail).skipSpace =
      (doc, some reached) := (readValue_eq (by omega)).trans hvalue
  have hreached := (advances _).value (Cursor.mk (colon.past ':') tail).skipSpace reached
    (by rw [hread])
  have hlast := Cursor.length_skipSpace reached
  have hmembers : readMembers (3 * chars.length + 1) false reached.skipSpace = _ :=
    readMembers_eq (by omega)
  rw [memberAt, readMember, hname]
  simp only [hcolon, hread, hmembers]
  rfl

end Calls

/-- A page is its value, and what stands behind it. -/
theorem parse_eq (text : String) :
    parse text = ⟨(valueAt (start text).skipSpace).1,
      (valueAt (start text).skipSpace).2.bind fun stop =>
        if stop.skipSpace.rest.isEmpty then none else some stop.skipSpace.peek⟩ := by
  unfold parse
  dsimp only
  rw [readValue_eq (by omega)]
  cases (valueAt (start text).skipSpace).2 <;> rfl

end Page

end Preflight
