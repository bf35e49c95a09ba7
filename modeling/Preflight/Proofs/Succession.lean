import Mathlib.Data.List.Dedup
import Mathlib.Data.List.Induction
import Preflight.Proofs.Recording
import Preflight.Store.Memory

/-!
# Records in memory and in a directory

The two stores keep their records differently, but a series of calls leaves the
same answers in both: for each identifier the record of the last call for it
(`lastRecord?`). Each store has an invariant that says so in its own terms, and
each call takes it from the calls so far to one call more. In memory it is about
the entries and their keys. In a directory it is about the shelf: under the name of
each record stands the document of the last one, and no draft is left.

The documents are read back only at the end, by whoever loads. That the other
identifiers keep their records is the work of the names: no two identifiers share
one, and a draft has none that a record could have.

## Main results

* `MemoryRecords.Holds.concat`, `DirectoryStore.Keeps.concat` — one more call.
* `stores_agree` — after every series of calls both stores give the same answers.
-/

namespace Preflight

/-- Record reports one after the other, and return the answers. -/
def ReportStore.recordAll {τ : Type} (store : ReportStore τ) (calls : List (Workflow × Report)) :
    Act τ (List (Except CheckError Unit)) :=
  calls.mapM fun call => store.record call.1 call.2

/-- The record that the last call for an identifier makes. -/
def lastRecord? (calls : List (Workflow × Report)) (id : Uuid) : Option WorkflowRecord :=
  (calls.reverse.find? fun call => call.1.id = id).map fun call => ⟨call.1, call.2⟩

theorem lastRecord?_concat (calls : List (Workflow × Report)) (call : Workflow × Report)
    (id : Uuid) :
    lastRecord? (calls ++ [call]) id =
      if call.1.id = id then some ⟨call.1, call.2⟩ else lastRecord? calls id := by
  rw [lastRecord?, List.reverse_concat, List.find?_cons]
  by_cases hid : call.1.id = id <;> simp [hid, lastRecord?]

theorem exists_of_lastRecord? {calls : List (Workflow × Report)} {id : Uuid}
    {record : WorkflowRecord} (h : lastRecord? calls id = some record) :
    ∃ call ∈ calls, call.1.id = id ∧ record = ⟨call.1, call.2⟩ := by
  obtain ⟨call, hcall, rfl⟩ := Option.map_eq_some_iff.mp h
  have hid := List.find?_some hcall
  have hmem := List.mem_of_find?_eq_some hcall
  exact ⟨call, List.mem_reverse.mp hmem, of_decide_eq_true hid, rfl⟩

section Calls

variable {τ : Type} (store : ReportStore τ) (calls : List (Workflow × Report))
  (call : Workflow × Report) (world : τ)

theorem value_recordAll_concat :
    ((store.recordAll (calls ++ [call])).run world).value =
      ((store.recordAll calls).run world).value ++
        [((store.record call.1 call.2).run ((store.recordAll calls).run world).world).value] := by
  rw [ReportStore.recordAll, List.mapM_append, List.mapM_cons, List.mapM_nil]
  rfl

theorem world_recordAll_concat :
    ((store.recordAll (calls ++ [call])).run world).world =
      ((store.record call.1 call.2).run ((store.recordAll calls).run world).world).world := by
  rw [ReportStore.recordAll, List.mapM_append, List.mapM_cons, List.mapM_nil]
  rfl

end Calls

/-! ## In memory -/

namespace MemoryRecords

theorem lookup_put (id : Uuid) (record : WorkflowRecord) (entries : List (Uuid × WorkflowRecord))
    (other : Uuid) :
    (put id record entries).lookup other =
      if id = other then some record else entries.lookup other := by
  induction entries with
  | nil =>
      by_cases hid : id = other
      · simp [put, hid]
      · simp [put, hid, List.lookup_cons, beq_false_of_ne (Ne.symm hid)]
  | cons head rest ih =>
      obtain ⟨key, old⟩ := head
      by_cases hkey : key = id
      · subst hkey
        by_cases hid : key = other
        · simp [put, hid]
        · simp [put, hid, List.lookup_cons, beq_false_of_ne (Ne.symm hid)]
      · by_cases hother : other = key
        · subst hother
          simp [put, hkey, Ne.symm hkey]
        · simp [put, hkey, List.lookup_cons, beq_false_of_ne hother, ih]

theorem mem_keys_put (id : Uuid) (record : WorkflowRecord)
    (entries : List (Uuid × WorkflowRecord)) (other : Uuid) :
    other ∈ (put id record entries).map Prod.fst ↔ other = id ∨ other ∈ entries.map Prod.fst := by
  induction entries with
  | nil => simp [put]
  | cons head rest ih =>
      obtain ⟨key, old⟩ := head
      by_cases hkey : key = id
      · subst hkey
        simp [put]
      · simp only [put, hkey, ↓reduceIte, List.map_cons, List.mem_cons, ih]
        exact or_left_comm

theorem nodup_keys_put (id : Uuid) (record : WorkflowRecord)
    {entries : List (Uuid × WorkflowRecord)} (h : (entries.map Prod.fst).Nodup) :
    ((put id record entries).map Prod.fst).Nodup := by
  induction entries with
  | nil => simp [put]
  | cons head rest ih =>
      obtain ⟨key, old⟩ := head
      rw [List.map_cons, List.nodup_cons] at h
      by_cases hkey : key = id
      · subst hkey
        simpa [put] using h
      · simp only [put, hkey, ↓reduceIte, List.map_cons, List.nodup_cons, mem_keys_put, not_or]
        exact ⟨⟨not_false, h.1⟩, ih h.2⟩

/-- The records are those of a series of calls. -/
structure Holds (records : MemoryRecords) (calls : List (Workflow × Report)) : Prop where
  get : ∀ id, records.get? id = lastRecord? calls id
  nodup : (records.entries.map Prod.fst).Nodup
  keys : ∀ id, id ∈ records.entries.map Prod.fst ↔ id ∈ calls.map fun call => call.1.id

theorem holds_nil : Holds {} [] where
  get _ := rfl
  nodup := .nil
  keys _ := Iff.rfl

theorem Holds.concat {records : MemoryRecords} {calls : List (Workflow × Report)}
    (h : records.Holds calls) (call : Workflow × Report) :
    (records.insert ⟨call.1, call.2⟩).Holds (calls ++ [call]) where
  get id := by
    rw [lastRecord?_concat, get?, insert, lookup_put, ← h.get id]
    rfl
  nodup := nodup_keys_put _ _ h.nodup
  keys id := by
    rw [insert, mem_keys_put, h.keys, List.map_append, List.mem_append, List.map_singleton,
      List.mem_singleton]
    exact or_comm

theorem Holds.size_eq {records : MemoryRecords} {calls : List (Workflow × Report)}
    (h : records.Holds calls) :
    records.size = (calls.map fun call => call.1.id).dedup.length := by
  have hperm : (records.entries.map Prod.fst).Perm (calls.map fun call => call.1.id).dedup := by
    rw [List.perm_ext_iff_of_nodup h.nodup (List.nodup_dedup _)]
    intro id
    rw [h.keys, List.mem_dedup]
  rw [size, ← hperm.length_eq, List.length_map]

theorem holds_recordAll (calls : List (Workflow × Report)) :
    ((store.recordAll calls).run {}).value = calls.map (fun _ => .ok ()) ∧
      ((store.recordAll calls).run {}).world.Holds calls := by
  induction calls using List.reverseRecOn with
  | nil => exact ⟨rfl, holds_nil⟩
  | append_singleton calls call ih =>
      obtain ⟨hvalue, hholds⟩ := ih
      rw [value_recordAll_concat, world_recordAll_concat, hvalue, List.map_append]
      exact ⟨rfl, hholds.concat call⟩

end MemoryRecords

/-! ## In a directory -/

namespace DirectoryStore

variable {store : DirectoryStore} {files : Files} {calls : List (Workflow × Report)}

/-- The directory of a store is missing, or there is nothing in it. -/
def Fresh (store : DirectoryStore) (files : Files) : Prop :=
  files.read (files.resolve store.root) = .error .notFound ∨
    files.get? (files.resolve store.root) = some .directory ∧
      ∀ name, store.shelf files name = none

theorem fresh_empty (store : DirectoryStore) : store.Fresh {} := by
  by_cases hnil : ({} : Files).resolve store.root = []
  · right
    refine ⟨by rw [hnil]; rfl, fun name => ?_⟩
    rw [shelf, Files.get?_empty (by simp)]
  · left
    obtain ⟨dir, name, hpath⟩ : ∃ dir name, ({} : Files).resolve store.root = dir ++ [name] :=
      ⟨_, _, (List.dropLast_concat_getLast hnil).symm⟩
    rw [hpath, Files.rooted_empty.read_of_clear (Files.clear_empty dir),
      Files.get?_empty (by simp), Files.textOf]

/-- The documents on the shelf are those of a series of calls. -/
structure Keeps (store : DirectoryStore) (files : Files) (calls : List (Workflow × Report)) :
    Prop where
  isOpen : store.Open files
  draft : ∀ id, store.shelf files (draftName id) = none
  record : ∀ id, store.shelf files (recordName id) =
    (lastRecord? calls id).map fun record => .file (document record)

theorem Fresh.keeps (h : store.Fresh files) (hrooted : files.Rooted) : store.Keeps files [] := by
  have hopen : store.Open files ∧ ∀ name, store.shelf files name = none := by
    rcases h with hread | ⟨hdir, hempty⟩
    · obtain ⟨hclear, hnone⟩ := hrooted.clear_of_read hread
      refine ⟨⟨hrooted, hclear⟩, fun name => ?_⟩
      by_contra hentry
      have hdir := hrooted _ name hentry
      rw [hnone] at hdir
      cases hdir
    · exact ⟨⟨hrooted, hrooted.clear_of_directory hdir⟩, hempty⟩
  exact ⟨hopen.1, fun _ => hopen.2 _, fun _ => hopen.2 _⟩

theorem Keeps.accepts (h : store.Keeps files calls) (id : Uuid) : store.Accepts files id where
  isOpen := h.isOpen
  draft := by simp [h.draft id]
  record := by
    rw [h.record id]
    cases lastRecord? calls id <;> simp

/-- One more call succeeds, and its record takes the place of the earlier one. -/
theorem Keeps.concat (h : store.Keeps files calls) (call : Workflow × Report) :
    ((store.record call.1 call.2).run files).value = .ok () ∧
      store.Keeps ((store.record call.1 call.2).run files).world (calls ++ [call]) := by
  let record : WorkflowRecord := ⟨call.1, call.2⟩
  obtain ⟨after, hrun, hstands, hshelf⟩ := (h.accepts record.workflow.id).performAll
  rw [value_record, world_record, hrun]
  refine ⟨rfl, hstands.open, ?_, ?_⟩
  · intro id
    rw [hshelf]
    by_cases hid : record.workflow.id = id
    · subst hid
      exact shelved_draft _ record
    · rw [shelved_other _ record (fun heq => hid (draftName_injective heq).symm)
        (recordName_ne_draftName _ _).symm]
      exact h.draft id
  · intro id
    rw [hshelf, lastRecord?_concat]
    by_cases hid : record.workflow.id = id
    · subst hid
      rw [shelved_record, if_pos rfl]
      rfl
    · rw [shelved_other _ record (recordName_ne_draftName _ _)
        fun heq => hid (recordName_injective heq).symm, if_neg hid]
      exact h.record id

theorem Keeps.load_eq (h : store.Keeps files calls)
    (hcalls : ∀ call ∈ calls, call.2.InWords ∧ call.2.updatedAt.nanos = 0) (id : Uuid) :
    store.load files id = .ok (lastRecord? calls id) := by
  rw [h.isOpen.load_eq, h.record id]
  cases hlast : lastRecord? calls id with
  | none => rfl
  | some record =>
      obtain ⟨call, hmem, _, rfl⟩ := exists_of_lastRecord? hlast
      obtain ⟨hwords, hwhole⟩ := hcalls call hmem
      rw [Option.map_some, loadEntry_document hwords, WorkflowRecord.wholeMillis_eq_self hwhole]

theorem keeps_recordAll (hfresh : store.Keeps files []) (calls : List (Workflow × Report)) :
    ((store.reportStore.recordAll calls).run files).value = calls.map (fun _ => .ok ()) ∧
      store.Keeps ((store.reportStore.recordAll calls).run files).world calls := by
  induction calls using List.reverseRecOn with
  | nil => exact ⟨rfl, hfresh⟩
  | append_singleton calls call ih =>
      obtain ⟨hvalue, hkeeps⟩ := ih
      obtain ⟨hok, hnext⟩ := hkeeps.concat call
      rw [value_recordAll_concat, world_recordAll_concat, hvalue, List.map_append]
      exact ⟨congrArg (calls.map _ ++ [·]) hok, hnext⟩

end DirectoryStore

/-- **A store in memory and a store in a fresh directory agree.** After every prefix of a series
of calls, all of which succeed in both, each identifier has the record of the last call for it, or
none if there was no call; and the store in memory counts the identifiers. -/
theorem stores_agree (store : DirectoryStore) {files : Files} (hrooted : files.Rooted)
    (hfresh : store.Fresh files) {calls : List (Workflow × Report)}
    (hcalls : ∀ call ∈ calls, call.2.InWords ∧ call.2.updatedAt.nanos = 0) :
    ∀ sofar, sofar <+: calls →
      let memory := (MemoryRecords.store.recordAll sofar).run {}
      let disk := (store.reportStore.recordAll sofar).run files
      memory.value = sofar.map (fun _ => .ok ()) ∧ disk.value = sofar.map (fun _ => .ok ()) ∧
      (∀ id, memory.world.get? id = lastRecord? sofar id ∧
        store.load disk.world id = .ok (lastRecord? sofar id)) ∧
      memory.world.size = (sofar.map fun call => call.1.id).dedup.length := by
  intro sofar hsofar memory disk
  obtain ⟨hmemory, hholds⟩ := MemoryRecords.holds_recordAll sofar
  obtain ⟨hdisk, hkeeps⟩ := DirectoryStore.keeps_recordAll (hfresh.keeps hrooted) sofar
  refine ⟨hmemory, hdisk, fun id => ⟨hholds.get id, ?_⟩, hholds.size_eq⟩
  exact hkeeps.load_eq (fun call hcall => hcalls call (hsofar.subset hcall)) id

/-- Two calls for one identifier, and one for another between them. -/
def threeCalls : List (Workflow × Report) :=
  [(awkwardRecord.workflow, awkwardRecord.response),
   (⟨⟨0⟩, "nightly"⟩, Report.of "catalog" [] .epoch),
   (awkwardRecord.workflow, Report.of "catalog" [.succeeded "connect" 3] .epoch)]

theorem stores_agree_threeCalls :
    let store : DirectoryStore := ⟨"store"⟩
    let memory := (MemoryRecords.store.recordAll threeCalls).run {}
    let disk := (store.reportStore.recordAll threeCalls).run {}
    let last : WorkflowRecord :=
      ⟨awkwardRecord.workflow, Report.of "catalog" [.succeeded "connect" 3] .epoch⟩
    (({} : Files).Rooted ∧ store.Fresh {} ∧
      ∀ call ∈ threeCalls, call.2.InWords ∧ call.2.updatedAt.nanos = 0) ∧
    memory.world.get? last.workflow.id = some last ∧
    store.load disk.world last.workflow.id = .ok (some last) ∧ memory.world.size = 2 := by
  intro store memory disk last
  have hfresh := store.fresh_empty
  have hcalls : ∀ call ∈ threeCalls, call.2.InWords ∧ call.2.updatedAt.nanos = 0 := by
    simp only [threeCalls, List.forall_mem_cons, List.not_mem_nil, false_implies, implies_true,
      and_true]
    refine ⟨⟨inWords_awkwardRecord, rfl⟩, ⟨by simp [Report.InWords, Report.of], rfl⟩, ?_, rfl⟩
    simp [Report.InWords, Report.of, StepResult.succeeded, Numeral.wordBound]
  obtain ⟨-, -, hagree, hsize⟩ :=
    stores_agree store Files.rooted_empty hfresh hcalls threeCalls List.prefix_rfl
  exact ⟨⟨Files.rooted_empty, hfresh, hcalls⟩, (hagree _).1, (hagree _).2, hsize⟩

end Preflight
