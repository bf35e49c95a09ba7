import Mathlib.Data.Bool.Basic
import Mathlib.Data.List.Induction
import Preflight.Proofs.Recording

/-!
# Two calls for one identifier at once

Two calls for one identifier share the name of their draft. Their operations may
come in any order, each as a whole, and a schedule says whose turn it is. A call
that has written its draft finds a draft when it comes to move it, unless the other
call has moved it away in the meantime (`Overtaken`); the draft it finds may well be
the other's. A call that is overtaken fails: it has nothing left to move.

Only one of the two can be overtaken, since each would have to come last. So one
call always succeeds, and what is moved is always a complete document, so whoever
loads afterwards gets one of the two records.

The invariant of a run (`Race.Follows`) is about the turns taken so far: they tell
how far each call has come, and whether a draft stands there for a call that has
written one.

## Main results

* `Race.follows_run` — what the turns taken so far tell about a race.
* `race_of_two_calls` — who fails, that not both do, and what is loaded afterwards.
-/

namespace Preflight

open DirectoryStore

/-- How far a call has come: the operations that it has not done yet, or the error that ended
it. -/
inductive Progress where
  | ahead (todo : List RecordStage)
  | failed (e : CheckError)

/-- The answer of a call that is over. -/
def Progress.answer? : Progress → Option (Except CheckError Unit)
  | ahead [] => some (.ok ())
  | ahead (_ :: _) => none
  | failed e => some (.error e)

/-- Two calls under way in one tree of files. -/
structure Race where
  files : Files
  progress : Bool → Progress

namespace Race

variable (store : DirectoryStore) (records : Bool → WorkflowRecord)

/-- Before the first turn. -/
def start (files : Files) : Race := ⟨files, fun _ => .ahead stages⟩

/-- One call does its next operation, if it has one left. -/
def turn (race : Race) (caller : Bool) : Race :=
  match race.progress caller with
  | .ahead (stage :: rest) =>
      match store.perform (records caller) race.files stage with
      | (.ok (), files) => ⟨files, Function.update race.progress caller (.ahead rest)⟩
      | (.error e, files) => ⟨files, Function.update race.progress caller (.failed e)⟩
  | _ => race

/-- The calls take turns as a schedule says. -/
def run (files : Files) (schedule : List Bool) : Race :=
  schedule.foldl (turn store records) (start files)

variable {store records}

theorem turn_of_ok {race : Race} {caller : Bool} {stage : RecordStage} {rest : List RecordStage}
    {files : Files} (hprogress : race.progress caller = .ahead (stage :: rest))
    (hperform : store.perform (records caller) race.files stage = (.ok (), files)) :
    turn store records race caller =
      ⟨files, Function.update race.progress caller (.ahead rest)⟩ := by
  simp only [turn, hprogress, hperform]

theorem turn_of_error {race : Race} {caller : Bool} {stage : RecordStage}
    {rest : List RecordStage} {files : Files} {e : CheckError}
    (hprogress : race.progress caller = .ahead (stage :: rest))
    (hperform : store.perform (records caller) race.files stage = (.error e, files)) :
    turn store records race caller =
      ⟨files, Function.update race.progress caller (.failed e)⟩ := by
  simp only [turn, hprogress, hperform]

/-! ## Who is overtaken -/

/-- The other call takes its third turn, to move the draft, when this one has taken two, the second
of which was to write it. -/
def Overtaken (schedule : List Bool) (caller : Bool) : Prop :=
  ∃ before behind, schedule = before ++ (!caller) :: behind ∧
    before.count (!caller) = 2 ∧ before.count caller = 2

theorem overtaken_concat (sofar : List Bool) (next caller : Bool) :
    Overtaken (sofar ++ [next]) caller ↔
      Overtaken sofar caller ∨
        next = (!caller) ∧ sofar.count (!caller) = 2 ∧ sofar.count caller = 2 := by
  constructor
  · rintro ⟨before, behind, heq, hcounts⟩
    rcases List.eq_nil_or_concat behind with rfl | ⟨middle, last, rfl⟩
    · obtain ⟨rfl, hnext⟩ := List.append_inj' heq rfl
      exact .inr ⟨(List.cons.inj hnext).1, hcounts⟩
    · rw [List.concat_eq_append, ← List.cons_append, ← List.append_assoc] at heq
      obtain ⟨rfl, _⟩ := List.append_inj' heq rfl
      exact .inl ⟨before, middle, rfl, hcounts⟩
  · rintro (⟨before, behind, rfl, hcounts⟩ | ⟨rfl, hcounts⟩)
    · exact ⟨before, behind ++ [next], by simp, hcounts⟩
    · exact ⟨sofar, [], rfl, hcounts⟩

theorem Overtaken.counts {sofar : List Bool} {caller : Bool} (h : Overtaken sofar caller) :
    3 ≤ sofar.count (!caller) ∧ 2 ≤ sofar.count caller := by
  obtain ⟨before, behind, rfl, hother, hself⟩ := h
  rw [List.count_append, List.count_append, List.count_cons_self, hother, hself]
  omega

/-- Only one of two calls is overtaken. -/
theorem Overtaken.not_other {sofar : List Bool} {caller : Bool} (h : Overtaken sofar caller) :
    ¬ Overtaken sofar (!caller) := by
  induction sofar using List.reverseRecOn generalizing caller with
  | nil =>
      obtain ⟨before, behind, heq, _⟩ := h
      cases before <;> cases heq
  | append_singleton sofar next ih =>
      intro hother
      -- Whoever is overtaken by this turn has two turns, and the other one has just had its third;
      -- that leaves no room for the other to have been overtaken before.
      rcases (overtaken_concat ..).mp h with h | ⟨hnext, hcounts⟩
      · rcases (overtaken_concat ..).mp hother with hother | ⟨_, hcounts⟩
        · exact ih h hother
        · have hlate := h.counts
          omega
      · rcases (overtaken_concat ..).mp hother with hother | ⟨hlast, _⟩
        · have hlate := hother.counts
          rw [Bool.not_not] at hlate
          omega
        · rw [hnext, Bool.not_not] at hlast
          cases caller <;> cases hlast

/-! ## What the turns tell -/

theorem count_concat_self (sofar : List Bool) (next : Bool) :
    (sofar ++ [next]).count next = sofar.count next + 1 := by
  simp

theorem count_concat_other (sofar : List Bool) (next : Bool) :
    (sofar ++ [next]).count (!next) = sofar.count (!next) := by
  simp

/-- If the one whose turn it was has not had as many turns, the other has had them before. -/
theorem eq_other_of_count {sofar : List Bool} {next : Bool} {count : Nat} (c : Bool)
    (hnext : sofar.count next = count) (h : count + 1 < (sofar ++ [next]).count c) :
    c = (!next) ∧ (sofar ++ [next]).count c = sofar.count c := by
  rcases Bool.eq_or_eq_not c next with rfl | rfl
  · rw [count_concat_self] at h
    omega
  · exact ⟨rfl, count_concat_other ..⟩

/-- Who takes a turn is not overtaken by it, and the other only by a third turn. -/
theorem overtaken_concat_self (sofar : List Bool) (next : Bool) :
    Overtaken (sofar ++ [next]) next ↔ Overtaken sofar next := by
  rw [overtaken_concat]
  cases next <;> simp

theorem overtaken_concat_other (sofar : List Bool) (next : Bool) :
    Overtaken (sofar ++ [next]) (!next) ↔
      Overtaken sofar (!next) ∨ sofar.count next = 2 ∧ sofar.count (!next) = 2 := by
  rw [overtaken_concat]
  simp

theorem overtaken_concat_of_ne {sofar : List Bool} {next : Bool} (h : sofar.count next ≠ 2)
    (c : Bool) : Overtaken (sofar ++ [next]) c ↔ Overtaken sofar c := by
  rcases Bool.eq_or_eq_not c next with rfl | rfl
  · exact overtaken_concat_self ..
  · rw [overtaken_concat_other]
    exact or_iff_left fun hboth => h hboth.1

/-- How far each call has come. -/
structure Progressing (store : DirectoryStore) (id : Uuid) (progress : Bool → Progress)
    (sofar : List Bool) : Prop where
  ahead : ∀ c, ¬ (sofar.count c = 3 ∧ Overtaken sofar c) →
    progress c = .ahead (stages.drop (sofar.count c))
  failed : ∀ c, sofar.count c = 3 → Overtaken sofar c →
    progress c = .failed (.file (store.recordPath id) .notFound)

/-- What stands under the two names that the calls share. -/
structure Stocked (records : Bool → WorkflowRecord) (id : Uuid) (shelf : Shelf)
    (sofar : List Bool) : Prop where
  written : ∀ c, sofar.count c = 2 → ¬ Overtaken sofar c →
    ∃ author, shelf (draftName id) = some (.file (document (records author)))
  gone : ∀ c, sofar.count c = 2 → Overtaken sofar c → shelf (draftName id) = none
  moved : ∀ c, 3 ≤ sofar.count c →
    ∃ author, shelf (recordName id) = some (.file (document (records author)))

/-- What the turns taken so far tell about a race. -/
structure Follows (store : DirectoryStore) (records : Bool → WorkflowRecord) (id : Uuid)
    (race : Race) (sofar : List Bool) : Prop where
  accepts : store.Accepts race.files id
  stands : sofar ≠ [] → store.Stands race.files
  progress : Progressing store id race.progress sofar
  stock : Stocked records id (store.shelf race.files) sofar

section Turns

variable {id : Uuid} {progress : Bool → Progress} {shelf : Shelf} {sofar : List Bool} {next : Bool}

/-- A turn of one call leaves the other where it is, even if that is overtaken by it. -/
theorem Progressing.other (h : Progressing store id progress sofar) {now : Progress} :
    (¬ ((sofar ++ [next]).count (!next) = 3 ∧ Overtaken (sofar ++ [next]) (!next)) →
      Function.update progress next now (!next) =
        .ahead (stages.drop ((sofar ++ [next]).count (!next)))) ∧
    ((sofar ++ [next]).count (!next) = 3 → Overtaken (sofar ++ [next]) (!next) →
      Function.update progress next now (!next) =
        .failed (.file (store.recordPath id) .notFound)) := by
  rw [count_concat_other, overtaken_concat_other, Function.update_of_ne (by simp)]
  constructor
  · intro hnot
    exact h.ahead _ fun hboth => hnot ⟨hboth.1, .inl hboth.2⟩
  · intro hcount hovertaken
    rcases hovertaken with hovertaken | ⟨_, htwo⟩
    · exact h.failed _ hcount hovertaken
    · omega

theorem Progressing.go (h : Progressing store id progress sofar) (next : Bool)
    (hnext : ¬ (sofar.count next = 2 ∧ Overtaken sofar next)) :
    Progressing store id
      (Function.update progress next (.ahead (stages.drop (sofar.count next + 1))))
      (sofar ++ [next]) where
  ahead c hnot := by
    rcases Bool.eq_or_eq_not c next with rfl | rfl
    · rw [Function.update_self, count_concat_self]
    · exact h.other.1 hnot
  failed c hcount hovertaken := by
    rcases Bool.eq_or_eq_not c next with rfl | rfl
    · rw [count_concat_self] at hcount
      exact absurd ⟨by omega, (overtaken_concat_self ..).mp hovertaken⟩ hnext
    · exact h.other.2 hcount hovertaken

theorem Progressing.stop (h : Progressing store id progress sofar)
    (hcount : sofar.count next = 2) (hovertaken : Overtaken sofar next) :
    Progressing store id
      (Function.update progress next (.failed (.file (store.recordPath id) .notFound)))
      (sofar ++ [next]) where
  ahead c hnot := by
    rcases Bool.eq_or_eq_not c next with rfl | rfl
    · rw [count_concat_self, overtaken_concat_self] at hnot
      exact absurd ⟨by omega, hovertaken⟩ hnot
    · exact h.other.1 hnot
  failed c hlast hlate := by
    rcases Bool.eq_or_eq_not c next with rfl | rfl
    · exact Function.update_self ..
    · exact h.other.2 hlast hlate

theorem Stocked.made (h : Stocked records id shelf sofar) (hnext : sofar.count next = 0) :
    Stocked records id shelf (sofar ++ [next]) where
  written c hcount hnot := by
    obtain ⟨rfl, hsame⟩ := eq_other_of_count c hnext (by omega)
    rw [overtaken_concat_of_ne (by omega)] at hnot
    exact h.written _ (hsame ▸ hcount) hnot
  gone c hcount hovertaken := by
    obtain ⟨rfl, hsame⟩ := eq_other_of_count c hnext (by omega)
    rw [overtaken_concat_of_ne (by omega)] at hovertaken
    exact h.gone _ (hsame ▸ hcount) hovertaken
  moved c hcount := by
    obtain ⟨rfl, hsame⟩ := eq_other_of_count c hnext (by omega)
    exact h.moved _ (hsame ▸ hcount)

theorem Stocked.write (h : Stocked records id shelf sofar) (hnext : sofar.count next = 1) :
    Stocked records id
      (Function.update shelf (draftName id) (some (.file (document (records next)))))
      (sofar ++ [next]) where
  written _ _ _ := ⟨next, Function.update_self ..⟩
  gone c _ hovertaken := by
    -- Being overtaken takes two turns of one call and three of the other; `next` has had one.
    rw [overtaken_concat_of_ne (by omega)] at hovertaken
    have hcounts := hovertaken.counts
    rcases Bool.eq_or_eq_not c next with rfl | rfl
    · omega
    · rw [Bool.not_not] at hcounts
      omega
  moved c hcount := by
    obtain ⟨rfl, hsame⟩ := eq_other_of_count c hnext (by omega)
    rw [Function.update_of_ne (recordName_ne_draftName _ _)]
    exact h.moved _ (hsame ▸ hcount)

theorem Stocked.move (author : Bool) (hnext : sofar.count next = 2) :
    Stocked records id
      (Function.update (Function.update shelf (draftName id) none) (recordName id)
        (some (.file (document (records author))))) (sofar ++ [next]) where
  written c hcount hnot := by
    rcases Bool.eq_or_eq_not c next with rfl | rfl
    · rw [count_concat_self] at hcount
      omega
    · -- A call that is waiting to move its draft is overtaken by this very turn.
      rw [count_concat_other] at hcount
      exact absurd ((overtaken_concat_other ..).mpr (.inr ⟨hnext, hcount⟩)) hnot
  gone _ _ _ := by
    rw [Function.update_of_ne (recordName_ne_draftName _ _).symm, Function.update_self]
  moved _ _ := ⟨author, Function.update_self ..⟩

theorem Stocked.miss (h : Stocked records id shelf sofar) (hnext : sofar.count next = 2)
    (hovertaken : Overtaken sofar next) : Stocked records id shelf (sofar ++ [next]) := by
  have hcounts := hovertaken.counts
  -- The other call is over, and this one is now: no call has a draft that it has not moved.
  have hover : ∀ c, (sofar ++ [next]).count c ≠ 2 := by
    intro c hcount
    rcases Bool.eq_or_eq_not c next with rfl | rfl
    · rw [count_concat_self] at hcount
      omega
    · rw [count_concat_other] at hcount
      omega
  exact
    { written := fun c hcount _ => absurd hcount (hover c)
      gone := fun c hcount _ => absurd hcount (hover c)
      moved := fun _ _ => h.moved (!next) hcounts.1 }

end Turns

/-! ## The run -/

section Run

variable {id : Uuid} {files : Files}

theorem follows_start (h : store.Accepts files id) :
    Follows store records id (start files) [] where
  accepts := h
  stands hne := absurd rfl hne
  progress := ⟨fun _ _ => rfl, fun _ hcount => absurd hcount (by simp)⟩
  stock := ⟨fun _ hcount => absurd hcount (by simp), fun _ hcount => absurd hcount (by simp),
    fun _ hcount => absurd hcount (by simp)⟩

section Turn

variable (hids : ∀ c, (records c).workflow.id = id) {race : Race} {sofar : List Bool}
  (h : Follows store records id race sofar) {next : Bool}
include h

theorem Follows.make (hcount : sofar.count next = 0) :
    Follows store records id (turn store records race next) (sofar ++ [next]) := by
  have hprogress := h.progress.ahead next fun hboth => by omega
  have hgo := h.progress.go next fun hboth => by omega
  rw [hcount] at hprogress hgo
  obtain ⟨after, hperform, hstands, hshelf⟩ := h.accepts.isOpen.makeRoot (records next)
  rw [turn_of_ok hprogress hperform]
  exact
    { accepts := ⟨hstands.open, hshelf ▸ h.accepts.draft, hshelf ▸ h.accepts.record⟩
      stands := fun _ => hstands
      progress := hgo
      stock := hshelf ▸ h.stock.made hcount }

theorem Follows.stands_of_count (next : Bool) (hcount : sofar.count next ≠ 0) : store.Stands race.files := by
  apply h.stands
  rintro rfl
  exact hcount rfl

include hids

theorem Follows.write (hcount : sofar.count next = 1) :
    Follows store records id (turn store records race next) (sofar ++ [next]) := by
  have hprogress := h.progress.ahead next fun hboth => by omega
  have hgo := h.progress.go next fun hboth => by omega
  rw [hcount] at hprogress hgo
  obtain ⟨after, hperform, hstands, hshelf⟩ :=
    (h.stands_of_count next (by omega)).perform (records next) .writeDraft
  have hdraft := h.accepts.draft
  simp only [shelve, hids, hdraft, ↓reduceIte] at hperform hshelf
  rw [turn_of_ok hprogress hperform]
  have hafterDraft : store.shelf after (draftName id) ≠ some .directory := by
    rw [hshelf, Function.update_self]
    simp
  have hafterRecord : store.shelf after (recordName id) ≠ some .directory := by
    rw [hshelf, Function.update_of_ne (recordName_ne_draftName _ _)]
    exact h.accepts.record
  exact
    { accepts := ⟨hstands.open, hafterDraft, hafterRecord⟩
      stands := fun _ => hstands
      progress := hgo
      stock := hshelf ▸ h.stock.write hcount }

theorem Follows.move (hcount : sofar.count next = 2) (hinTime : ¬ Overtaken sofar next) :
    Follows store records id (turn store records race next) (sofar ++ [next]) := by
  have hprogress := h.progress.ahead next fun hboth => by omega
  have hgo := h.progress.go next fun hboth => hinTime hboth.2
  rw [hcount] at hprogress hgo
  obtain ⟨after, hperform, hstands, hshelf⟩ :=
    (h.stands_of_count next (by omega)).perform (records next) .putInPlace
  obtain ⟨author, hwritten⟩ := h.stock.written next hcount hinTime
  have hrecord := h.accepts.record
  simp only [shelve, hids, hwritten, hrecord, ↓reduceIte] at hperform hshelf
  rw [turn_of_ok hprogress hperform]
  have hafterDraft : store.shelf after (draftName id) ≠ some .directory := by
    rw [hshelf, Function.update_of_ne (recordName_ne_draftName _ _).symm, Function.update_self]
    simp
  have hafterRecord : store.shelf after (recordName id) ≠ some .directory := by
    rw [hshelf, Function.update_self]
    simp
  exact
    { accepts := ⟨hstands.open, hafterDraft, hafterRecord⟩
      stands := fun _ => hstands
      progress := hgo
      stock := hshelf ▸ Stocked.move author hcount }

theorem Follows.miss (hcount : sofar.count next = 2) (hovertaken : Overtaken sofar next) :
    Follows store records id (turn store records race next) (sofar ++ [next]) := by
  have hprogress := h.progress.ahead next fun hboth => by omega
  rw [hcount] at hprogress
  obtain ⟨after, hperform, hstands, hshelf⟩ :=
    (h.stands_of_count next (by omega)).perform (records next) .putInPlace
  have hgone := h.stock.gone next hcount hovertaken
  simp only [shelve, hids, hgone] at hperform hshelf
  rw [turn_of_error hprogress hperform]
  exact
    { accepts := ⟨hstands.open, hshelf ▸ h.accepts.draft, hshelf ▸ h.accepts.record⟩
      stands := fun _ => hstands
      progress := h.progress.stop hcount hovertaken
      stock := hshelf ▸ h.stock.miss hcount hovertaken }

theorem Follows.turn (hnext : sofar.count next < 3) :
    Follows store records id (turn store records race next) (sofar ++ [next]) := by
  rcases (by omega : sofar.count next = 0 ∨ sofar.count next = 1 ∨ sofar.count next = 2) with
    hcount | hcount | hcount
  · exact h.make hcount
  · exact h.write hids hcount
  · by_cases hovertaken : Overtaken sofar next
    · exact h.miss hids hcount hovertaken
    · exact h.move hids hcount hovertaken

end Turn

/-- **A race follows its schedule**, as long as no call has more than its three turns. -/
theorem follows_run (hids : ∀ c, (records c).workflow.id = id) (haccepts : store.Accepts files id)
    {schedule : List Bool} (hturns : ∀ c, schedule.count c ≤ 3) :
    Follows store records id (run store records files schedule) schedule := by
  induction schedule using List.reverseRecOn with
  | nil => exact follows_start haccepts
  | append_singleton sofar next ih =>
      have hsofar : ∀ c, sofar.count c ≤ 3 := fun c =>
        Nat.le_trans ((List.sublist_append_left sofar [next]).count_le c) (hturns c)
      have hnext : sofar.count next < 3 := by
        have hlast := hturns next
        rw [count_concat_self] at hlast
        omega
      rw [run, List.foldl_append, List.foldl_cons, List.foldl_nil]
      exact (ih hsofar).turn hids hnext

end Run

theorem Follows.answer_of_inTime {id : Uuid} {race : Race} {schedule : List Bool}
    (h : Follows store records id race schedule) {c : Bool} (hcount : schedule.count c = 3)
    (hinTime : ¬ Overtaken schedule c) : (race.progress c).answer? = some (.ok ()) := by
  rw [h.progress.ahead c fun hboth => hinTime hboth.2, hcount]
  rfl

theorem Follows.answer_of_overtaken {id : Uuid} {race : Race} {schedule : List Bool}
    (h : Follows store records id race schedule) {c : Bool} (hcount : schedule.count c = 3)
    (hovertaken : Overtaken schedule c) :
    (race.progress c).answer? = some (.error (.file (store.recordPath id) .notFound)) := by
  rw [h.progress.failed c hcount hovertaken]
  rfl

end Race

open Race in
/-- **Two calls for one identifier**, each of which would succeed on its own, come to this when
their operations are done in any order: a call succeeds unless it is overtaken, and then it finds
no draft to move. One of them always succeeds, and whoever loads afterwards gets one of the two
records. -/
theorem race_of_two_calls (store : DirectoryStore) {files : Files} (hrooted : files.Rooted)
    {id : Uuid} {records : Bool → WorkflowRecord} (hids : ∀ c, (records c).workflow.id = id)
    (hwords : ∀ c, (records c).response.InWords)
    (halone : ∀ c,
      ((store.record (records c).workflow (records c).response).run files).value = .ok ())
    {schedule : List Bool} (hturns : ∀ c, schedule.count c = 3) :
    let race := run store records files schedule
    (∀ c, ¬ Overtaken schedule c → (race.progress c).answer? = some (.ok ())) ∧
    (∀ c, Overtaken schedule c →
      (race.progress c).answer? = some (.error (.file (store.recordPath id) .notFound))) ∧
    (∃ c, (race.progress c).answer? = some (.ok ())) ∧
    ∃ c, store.load race.files id = .ok (some (records c).wholeMillis) := by
  intro race
  have haccepts : store.Accepts files id := by
    have hok := halone true
    rw [value_record] at hok
    rw [← hids true]
    exact (performAll_eq_ok_iff hrooted _).mp hok
  have hfollows : Follows store records id race schedule :=
    follows_run hids haccepts fun c => Nat.le_of_eq (hturns c)
  refine ⟨fun c => hfollows.answer_of_inTime (hturns c),
    fun c => hfollows.answer_of_overtaken (hturns c), ?_, ?_⟩
  · by_cases hovertaken : Overtaken schedule true
    · exact ⟨false, hfollows.answer_of_inTime (hturns false) hovertaken.not_other⟩
    · exact ⟨true, hfollows.answer_of_inTime (hturns true) hovertaken⟩
  · obtain ⟨author, hmoved⟩ := hfollows.stock.moved true (Nat.le_of_eq (hturns true).symm)
    refine ⟨author, ?_⟩
    rw [hfollows.accepts.isOpen.load_eq, hmoved]
    exact loadEntry_document (hwords author) id

/-! ## A call that is overtaken -/

/-- Two reports on one workflow. -/
def twoReports (c : Bool) : WorkflowRecord where
  workflow := awkwardRecord.workflow
  response := if c then awkwardRecord.response else Report.of "catalog" [] .epoch

theorem sameWorkflow_twoReports (c : Bool) :
    (twoReports c).workflow.id = awkwardRecord.workflow.id := rfl

theorem inWords_twoReports (c : Bool) : (twoReports c).response.InWords := by
  cases c with
  | false => simp [twoReports, Report.InWords, Report.of]
  | true => exact inWords_awkwardRecord

theorem twoReports_alone (store : DirectoryStore) (c : Bool) :
    ((store.record (twoReports c).workflow (twoReports c).response).run {}).value = .ok () := by
  rw [value_record]
  exact (performAll_eq_ok_iff Files.rooted_empty _).mpr (accepts_empty _ _)

/-- The first call makes the directory and writes its draft, the second one does all its
operations, and then the first goes on. -/
def overtaking : List Bool := [true, true, false, false, false, true]

theorem count_overtaking (c : Bool) : overtaking.count c = 3 := by
  cases c <;> rfl

theorem overtaken_overtaking : Race.Overtaken overtaking true :=
  ⟨[true, true, false, false], [true], rfl, rfl, rfl⟩

/-- Each of two calls succeeds on its own, and yet not both succeed together. -/
theorem overtaken_call_fails :
    let store : DirectoryStore := ⟨"store"⟩
    let race := Race.run store twoReports {} overtaking
    (∀ c, ((store.record (twoReports c).workflow (twoReports c).response).run {}).value = .ok ()) ∧
    (∀ c, overtaking.count c = 3) ∧
    (race.progress true).answer? =
      some (.error (.file (store.recordPath awkwardRecord.workflow.id) .notFound)) ∧
    ¬ ∀ c, (race.progress c).answer? = some (.ok ()) := by
  intro store race
  have hfollows := Race.follows_run sameWorkflow_twoReports
    (accepts_empty store awkwardRecord.workflow.id) fun c => Nat.le_of_eq (count_overtaking c)
  have hanswer := hfollows.answer_of_overtaken (count_overtaking true) overtaken_overtaking
  refine ⟨twoReports_alone store, count_overtaking, hanswer, fun hall => ?_⟩
  rw [hall true] at hanswer
  cases hanswer

theorem race_of_twoReports :
    let store : DirectoryStore := ⟨"store"⟩
    let race := Race.run store twoReports {} overtaking
    (({} : Files).Rooted ∧ (∀ c, (twoReports c).workflow.id = awkwardRecord.workflow.id) ∧
      (∀ c, (twoReports c).response.InWords) ∧
      (∀ c, ((store.record (twoReports c).workflow (twoReports c).response).run {}).value =
        .ok ()) ∧ ∀ c, overtaking.count c = 3) ∧
    (race.progress true).answer? =
      some (.error (.file (store.recordPath awkwardRecord.workflow.id) .notFound)) ∧
    (∃ c, (race.progress c).answer? = some (.ok ())) ∧
    ∃ c, store.load race.files awkwardRecord.workflow.id =
      .ok (some (twoReports c).wholeMillis) := by
  intro store race
  obtain ⟨-, hovertaken, hone, hload⟩ := race_of_two_calls store Files.rooted_empty
    sameWorkflow_twoReports inWords_twoReports (twoReports_alone store) count_overtaking
  exact ⟨⟨Files.rooted_empty, sameWorkflow_twoReports, inWords_twoReports,
      twoReports_alone store, count_overtaking⟩,
    hovertaken true overtaken_overtaking, hone, hload⟩

end Preflight
