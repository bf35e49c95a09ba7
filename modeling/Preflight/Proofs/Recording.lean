import Preflight.Proofs.RoundTrip
import Preflight.Proofs.Shelf

/-!
# A record is kept as a whole or not at all

A call that keeps a record has three operations, and only the last of them touches
what anybody loads: the first makes a directory without entries, and the second
writes a draft, which is nobody's record. The last one puts a complete document in
place of whatever was there. So whoever loads while the call is under way, or
after it has failed, gets the answer that stood before it.

A call succeeds exactly if no file is in the way of the directory and no directory
stands under the two names of its identifier (`DirectoryStore.Accepts`). What it
leaves behind then is one equation about the shelf.

## Main results

* `performAll_eq_ok_iff` — when a call succeeds.
* `Accepts.performAll` — what a call that succeeds leaves behind.
* `record_all_or_nothing` — a failed call changes no answer, a good one changes the
  answer for its own identifier, and between the operations every answer is one of
  the two.
-/

namespace Preflight

namespace DirectoryStore

variable {store : DirectoryStore} {files : Files}

/-! ## When a call succeeds -/

/-- A store is ready to keep a record for an identifier. -/
structure Accepts (store : DirectoryStore) (files : Files) (id : Uuid) : Prop where
  isOpen : store.Open files
  draft : store.shelf files (draftName id) ≠ some .directory
  record : store.shelf files (recordName id) ≠ some .directory

/-- The shelf once a record has been kept. -/
def shelved (shelf : Shelf) (record : WorkflowRecord) : Shelf :=
  Function.update (Function.update shelf (draftName record.workflow.id) none)
    (recordName record.workflow.id) (some (.file (document record)))

theorem shelved_draft (shelf : Shelf) (record : WorkflowRecord) :
    shelved shelf record (draftName record.workflow.id) = none := by
  rw [shelved, Function.update_of_ne (recordName_ne_draftName _ _).symm, Function.update_self]

theorem shelved_record (shelf : Shelf) (record : WorkflowRecord) :
    shelved shelf record (recordName record.workflow.id) = some (.file (document record)) := by
  rw [shelved, Function.update_self]

theorem shelved_other (shelf : Shelf) (record : WorkflowRecord) {name : String}
    (hdraft : name ≠ draftName record.workflow.id)
    (hrecord : name ≠ recordName record.workflow.id) :
    shelved shelf record name = shelf name := by
  rw [shelved, Function.update_of_ne hrecord, Function.update_of_ne hdraft]

theorem shelveAll_of_accepts {shelf : Shelf} {record : WorkflowRecord}
    (hdraft : shelf (draftName record.workflow.id) ≠ some .directory)
    (hrecord : shelf (recordName record.workflow.id) ≠ some .directory) :
    store.shelveAll record [.writeDraft, .putInPlace] shelf = (.ok (), shelved shelf record) := by
  have htarget : Function.update shelf (draftName record.workflow.id)
      (some (.file (document record))) (recordName record.workflow.id) ≠ some .directory := by
    rwa [Function.update_of_ne (recordName_ne_draftName _ _)]
  simp only [shelveAll, shelve, hdraft, ↓reduceIte, Function.update_self, htarget,
    Function.update_idem, shelved]

/-- A call that fails on the shelf leaves the records on it. -/
theorem shelveAll_of_refused {shelf : Shelf} {record : WorkflowRecord}
    (h : shelf (draftName record.workflow.id) = some .directory ∨
      shelf (recordName record.workflow.id) = some .directory) :
    ∃ e after, store.shelveAll record [.writeDraft, .putInPlace] shelf = (.error e, after) ∧
      ∀ id, after (recordName id) = shelf (recordName id) := by
  by_cases hdraft : shelf (draftName record.workflow.id) = some .directory
  · refine ⟨.file (store.draftPath record.workflow.id) .isADirectory, shelf, ?_, fun _ => rfl⟩
    simp only [shelveAll, shelve, hdraft, ↓reduceIte]
  · have hrecord := h.resolve_left hdraft
    have htarget : Function.update shelf (draftName record.workflow.id)
        (some (.file (document record))) (recordName record.workflow.id) = some .directory := by
      rwa [Function.update_of_ne (recordName_ne_draftName _ _)]
    refine ⟨.file (store.recordPath record.workflow.id) .isADirectory,
      Function.update shelf (draftName record.workflow.id) (some (.file (document record))), ?_,
      fun id => Function.update_of_ne (recordName_ne_draftName _ _) _ _⟩
    simp only [shelveAll, shelve, hdraft, ↓reduceIte, Function.update_self, htarget]

theorem Open.load_eq_of_shelf {after : Files} (hafter : store.Open after) (h : store.Open files)
    {id : Uuid}
    (hshelf : store.shelf after (recordName id) = store.shelf files (recordName id)) :
    store.load after id = store.load files id := by
  rw [hafter.load_eq, h.load_eq, hshelf]

/-- **A call that succeeds** leaves the document of its record on the shelf, and no draft. -/
theorem Accepts.performAll {record : WorkflowRecord}
    (h : store.Accepts files record.workflow.id) :
    ∃ after, store.performAll record stages files = (.ok (), after) ∧ store.Stands after ∧
      store.shelf after = shelved (store.shelf files) record := by
  obtain ⟨after, hrun, hstands, hshelf⟩ := h.isOpen.performAll record [.writeDraft, .putInPlace]
  rw [shelveAll_of_accepts h.draft h.record] at hrun hshelf
  exact ⟨after, hrun, hstands, hshelf⟩

/-- **A call that fails** leaves every answer as it was. -/
theorem load_of_not_accepts (hrooted : files.Rooted) {record : WorkflowRecord}
    (h : ¬ store.Accepts files record.workflow.id) :
    ∃ e after, store.performAll record stages files = (.error e, after) ∧
      ∀ id, store.load after id = store.load files id := by
  by_cases hopen : store.Open files
  · have hrefused : store.shelf files (draftName record.workflow.id) = some .directory ∨
        store.shelf files (recordName record.workflow.id) = some .directory := by
      by_contra hnone
      rw [not_or] at hnone
      exact h ⟨hopen, hnone.1, hnone.2⟩
    obtain ⟨e, shelf, hfails, hkept⟩ := @shelveAll_of_refused store _ record hrefused
    obtain ⟨after, hrun, hstands, hshelf⟩ := hopen.performAll record [.writeDraft, .putInPlace]
    rw [hfails] at hrun hshelf
    refine ⟨e, after, hrun, fun id => hstands.open.load_eq_of_shelf hopen ?_⟩
    rw [hshelf]
    exact hkept id
  · obtain ⟨e, hfails⟩ := makeRoot_of_not_open hrooted hopen record
    refine ⟨e, files, ?_, fun _ => rfl⟩
    simp only [DirectoryStore.performAll, stages, hfails]

theorem performAll_eq_ok_iff (hrooted : files.Rooted) (record : WorkflowRecord) :
    (store.performAll record stages files).1 = .ok () ↔
      store.Accepts files record.workflow.id := by
  constructor
  · intro hok
    by_contra hnot
    obtain ⟨e, after, hrun, _⟩ := load_of_not_accepts hrooted hnot
    rw [hrun] at hok
    cases hok
  · intro h
    obtain ⟨after, hrun, _⟩ := h.performAll
    rw [hrun]

/-! ## Answers while a call is under way -/

theorem shelve_recordName {stage : RecordStage} (h : stage ≠ .putInPlace)
    (record : WorkflowRecord) (shelf : Shelf) (id : Uuid) :
    (store.shelve record shelf stage).2 (recordName id) = shelf (recordName id) := by
  cases stage with
  | makeRoot => rfl
  | writeDraft =>
      by_cases hdraft : shelf (draftName record.workflow.id) = some .directory
      · simp only [shelve, hdraft, ↓reduceIte]
      · simp only [shelve, hdraft, ↓reduceIte]
        rw [Function.update_of_ne (recordName_ne_draftName _ _)]
  | putInPlace => exact absurd rfl h

theorem shelveAll_recordName {todo : List RecordStage} (h : .putInPlace ∉ todo)
    (record : WorkflowRecord) (shelf : Shelf) (id : Uuid) :
    (store.shelveAll record todo shelf).2 (recordName id) = shelf (recordName id) := by
  induction todo generalizing shelf with
  | nil => rfl
  | cons stage rest ih =>
      have hstage : stage ≠ .putInPlace := fun heq => h (heq ▸ List.mem_cons_self)
      have hstep := @shelve_recordName store stage hstage record shelf id
      rw [shelveAll]
      rcases hshelved : store.shelve record shelf stage with ⟨outcome, next⟩
      rw [hshelved] at hstep
      cases outcome with
      | ok => exact (ih (fun hmem => h (List.mem_cons_of_mem _ hmem)) next).trans hstep
      | error e => exact hstep

/-- The operations before the last one change no answer. -/
theorem load_partway (hrooted : files.Rooted) (record : WorkflowRecord) {count : Nat}
    (hcount : count < 3) (id : Uuid) :
    store.load (store.performAll record (stages.take count) files).2 id = store.load files id := by
  cases count with
  | zero => rfl
  | succ count =>
      have htake : stages.take (count + 1) =
          .makeRoot :: [RecordStage.writeDraft, .putInPlace].take count := rfl
      rw [htake]
      by_cases hopen : store.Open files
      · obtain ⟨after, hrun, hstands, hshelf⟩ :=
          hopen.performAll record ([RecordStage.writeDraft, .putInPlace].take count)
        have hearly : .putInPlace ∉ [RecordStage.writeDraft, .putInPlace].take count := by
          rcases (by omega : count = 0 ∨ count = 1) with rfl | rfl <;> decide
        rw [hrun]
        apply hstands.open.load_eq_of_shelf hopen
        rw [hshelf, shelveAll_recordName hearly]
      · obtain ⟨e, hfails⟩ := makeRoot_of_not_open hrooted hopen record
        simp only [DirectoryStore.performAll, hfails]

/-! ## A call as a whole -/

theorem value_record (workflow : Workflow) (report : Report) (files : Files) :
    ((store.record workflow report).run files).value =
      (store.performAll ⟨workflow, report⟩ stages files).1 := by
  rw [record, Act.run_bind]
  simp only [Act.change, Act.run]
  cases (store.performAll ⟨workflow, report⟩ stages files).1 <;> rfl

theorem world_record (workflow : Workflow) (report : Report) (files : Files) :
    ((store.record workflow report).run files).world =
      (store.performAll ⟨workflow, report⟩ stages files).2 := by
  rw [record, Act.run_bind]
  simp only [Act.change, Act.run]
  cases (store.performAll ⟨workflow, report⟩ stages files).1 <;> rfl

/-- The document of a record is loaded as the record. -/
theorem loadEntry_document {record : WorkflowRecord} (hwords : record.response.InWords)
    (id : Uuid) :
    store.loadEntry id (some (.file (document record))) = .ok (some record.wholeMillis) := by
  simp only [loadEntry, document, WorkflowRecord.decodeText_pretty hwords]

/-- A store of its own in an empty tree accepts every record. -/
theorem accepts_empty (store : DirectoryStore) (id : Uuid) : store.Accepts {} id where
  isOpen := ⟨Files.rooted_empty, Files.clear_empty _⟩
  draft := by
    rw [shelf, Files.get?_empty (by simp)]
    simp
  record := by
    rw [shelf, Files.get?_empty (by simp)]
    simp

/-- **A record is kept as a whole or not at all.** The call succeeds exactly if the store accepts
records for its identifier. If it fails, every answer is what it was. If it succeeds, the answer
for its identifier is the new record, to the millisecond, all others are what they were, and no
draft is left. Whoever loads when only the first `count` operations have been done gets the old
answer or the new one. -/
theorem record_all_or_nothing (store : DirectoryStore) {files : Files} (hrooted : files.Rooted)
    (workflow : Workflow) {report : Report} (hwords : report.InWords) :
    let call := (store.record workflow report).run files
    let fresh : WorkflowRecord := ⟨workflow, report⟩
    (call.value = .ok () ↔ store.Accepts files workflow.id) ∧
    (∀ e, call.value = .error e → ∀ id, store.load call.world id = store.load files id) ∧
    (call.value = .ok () →
      store.load call.world workflow.id = .ok (some fresh.wholeMillis) ∧
      (report.updatedAt.nanos = 0 → fresh.wholeMillis = fresh) ∧
      (∀ id, id ≠ workflow.id → store.load call.world id = store.load files id) ∧
      call.world.get? (call.world.resolve (store.draftPath workflow.id)) = none) ∧
    ∀ count id,
      let partway := (store.performAll fresh (stages.take count) files).2
      store.load partway id = store.load files id ∨
        store.load partway id = store.load call.world id := by
  intro call fresh
  have hvalue : call.value = (store.performAll fresh stages files).1 := value_record ..
  have hworld : call.world = (store.performAll fresh stages files).2 := world_record ..
  have hok_iff : call.value = .ok () ↔ store.Accepts files workflow.id := by
    rw [hvalue]
    exact performAll_eq_ok_iff hrooted fresh
  refine ⟨hok_iff, ?_, ?_, ?_⟩
  · intro e hfails id
    have hrefused : ¬ store.Accepts files workflow.id := by
      intro haccepts
      rw [hok_iff.mpr haccepts] at hfails
      cases hfails
    obtain ⟨e, after, hrun, hkept⟩ := @load_of_not_accepts store files hrooted fresh hrefused
    rw [hworld, hrun]
    exact hkept id
  · intro hok
    have haccepts := hok_iff.mp hok
    obtain ⟨after, hrun, hstands, hshelf⟩ := @Accepts.performAll store files fresh haccepts
    rw [hrun] at hworld
    refine ⟨?_, fun hwhole => WorkflowRecord.wholeMillis_eq_self hwhole, ?_, ?_⟩
    · rw [hworld, hstands.open.load_eq, hshelf]
      exact (congrArg _ (shelved_record _ fresh)).trans (loadEntry_document hwords _)
    · intro id hid
      rw [hworld]
      apply hstands.open.load_eq_of_shelf haccepts.isOpen
      rw [hshelf]
      exact shelved_other _ fresh (recordName_ne_draftName _ _)
        fun heq => hid (recordName_injective heq)
    · rw [hworld, resolve_draftPath]
      exact (congrFun hshelf _).trans (shelved_draft _ fresh)
  · intro count id partway
    by_cases hcount : count < 3
    · exact .inl (load_partway hrooted fresh hcount id)
    · have htake : stages.take count = stages := List.take_of_length_le (Nat.le_of_not_lt hcount)
      right
      rw [hworld, ← htake]

theorem record_all_or_nothing_awkward :
    let store : DirectoryStore := ⟨"store/workflows"⟩
    let call := (store.record awkwardRecord.workflow awkwardRecord.response).run {}
    (({} : Files).Rooted ∧ awkwardRecord.response.InWords ∧ call.value = .ok ()) ∧
    store.load call.world awkwardRecord.workflow.id = .ok (some awkwardRecord) ∧
    call.world.get? (call.world.resolve (store.draftPath awkwardRecord.workflow.id)) = none := by
  intro store call
  obtain ⟨haccepted, -, hgood, -⟩ := record_all_or_nothing store Files.rooted_empty
    awkwardRecord.workflow inWords_awkwardRecord
  have hok : call.value = .ok () := haccepted.mpr (accepts_empty store _)
  obtain ⟨hload, hwhole, -, hdraft⟩ := hgood hok
  rw [hwhole rfl] at hload
  exact ⟨⟨Files.rooted_empty, inWords_awkwardRecord, hok⟩, hload, hdraft⟩

end DirectoryStore

end Preflight
