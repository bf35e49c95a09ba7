import Mathlib.Logic.Function.Basic
import Preflight.Proofs.Identifier
import Preflight.Proofs.Tree
import Preflight.Store.Directory

/-!
# The directory of a store

Keeping records is about names in one directory and about nothing else in the
tree. `DirectoryStore.shelf` is what stands under each name there, and every
operation on the tree is one on the shelf (`DirectoryStore.shelve`). The first of
them makes the directory if it can, and that is the last time the way there
matters: if a file is in the way, the operation fails and nothing has changed; if
not, the shelf is as it was, since a directory that is missing has an empty shelf.

The names on the shelf are the records and the drafts of records. Each identifier
has two of its own, and no draft is ever the record of another.

## Main results

* `Files.resolve_join` — a name goes on from the directory that a text leads to.
* `Open.performAll` — recording, as operations on the shelf.
* `Open.load_eq` — loading, by what stands on the shelf.
-/

namespace Preflight

namespace Files

/-- A name of its own: neither empty nor one of those with a meaning, and without a slash. -/
structure IsName (name : String) : Prop where
  ne_empty : name ≠ ""
  ne_here : name ≠ "."
  ne_up : name ≠ ".."
  no_slash : '/' ∉ name.toList

theorem IsName.enter_eq {name : String} (h : IsName name) (path : TreePath) :
    enter path name = path ++ [name] := by
  simp [enter, h.ne_empty, h.ne_here, h.ne_up]

/-- The path that names between slashes lead to. -/
def follow (start : TreePath) (cs : List Char) : TreePath :=
  ((Text.splitAtChar '/' cs).map String.ofList).foldl enter start

theorem resolve_eq_follow (files : Files) (text : String) :
    files.resolve text =
      follow (if text.toList.head? = some '/' then [] else files.home) text.toList := rfl

theorem IsName.follow_self {name : String} (h : IsName name) (start : TreePath) :
    follow start name.toList = start ++ [name] := by
  simp [follow, Text.splitAtChar_of_not_mem h.no_slash, h.enter_eq]

theorem IsName.follow_append {name : String} (h : IsName name) (start : TreePath)
    (cs : List Char) : follow start (cs ++ '/' :: name.toList) = follow start cs ++ [name] := by
  simp [follow, Text.splitAtChar_append, Text.splitAtChar_of_not_mem h.no_slash, h.enter_eq]

theorem follow_append_slash (start : TreePath) (cs : List Char) :
    follow start (cs ++ ['/']) = follow start cs := by
  simp [follow, Text.splitAtChar_append, Text.splitAtChar, enter]

/-- A text of a path goes on by a name from where the text leads. -/
theorem resolve_join (files : Files) (text : String) {name : String} (h : IsName name) :
    files.resolve (join text name) = files.resolve text ++ [name] := by
  simp only [resolve_eq_follow, join]
  split
  · rename_i hempty
    obtain rfl : text = "" := String.isEmpty_iff.mp hempty
    have hhead : name.toList.head? ≠ some '/' := fun heq => h.no_slash (List.mem_of_head? heq)
    rw [if_neg hhead, h.follow_self]
    rfl
  · rename_i hempty
    obtain ⟨c, tail, htext⟩ : ∃ c tail, text.toList = c :: tail := by
      apply List.exists_cons_of_ne_nil
      intro heq
      exact hempty (String.isEmpty_iff.mpr (String.toList_eq_nil_iff.mp heq))
    have hhead : ∀ more : List Char, (text.toList ++ more).head? = text.toList.head? := by
      intro more
      rw [htext]
      rfl
    split
    · rename_i hlast
      obtain ⟨init, hinit⟩ := List.getLast?_eq_some_iff.mp hlast
      rw [String.toList_append, hhead, hinit, List.append_assoc, List.singleton_append,
        h.follow_append, follow_append_slash]
    · rw [String.toList_append, String.toList_append, List.append_assoc, hhead]
      exact h.follow_append _ _

theorem join_append (text name more : String) : join text (name ++ more) = join text name ++ more := by
  rw [join, join]
  split
  · rfl
  · split <;> simp only [String.append_assoc]

theorem last_injective {path : TreePath} {name name' : String}
    (h : path ++ [name] = path ++ [name']) : name = name' := by
  simpa using h

theorem ne_concat (path : TreePath) (name : String) : path ≠ path ++ [name] := by simp

theorem isName_of_length {name : String} (hlength : 2 < name.toList.length)
    (hslash : '/' ∉ name.toList) : IsName name where
  ne_empty := by
    rintro rfl
    cases hlength
  ne_here := by
    rintro rfl
    revert hlength
    decide
  ne_up := by
    rintro rfl
    revert hlength
    decide
  no_slash := hslash

end Files

namespace DirectoryStore

/-! ## The names -/

/-- The name of the document of a record. -/
def recordName (id : Uuid) : String := id.text ++ ".json"

/-- The name of the draft of a document. -/
def draftName (id : Uuid) : String := recordName id ++ ".tmp"

theorem length_recordName (id : Uuid) : (recordName id).toList.length = 41 := by
  simp [recordName, Uuid.text, id.length_chars]

theorem length_draftName (id : Uuid) : (draftName id).toList.length = 45 := by
  rw [draftName, String.toList_append, List.length_append, length_recordName]
  rfl

theorem recordName_ne_draftName (id id' : Uuid) : recordName id ≠ draftName id' := by
  intro h
  have hlength := length_recordName id
  rw [h, length_draftName] at hlength
  cases hlength

theorem recordName_injective {id id' : Uuid} (h : recordName id = recordName id') : id = id' :=
  Uuid.text_injective (String.append_left_inj ".json" |>.mp h)

theorem draftName_injective {id id' : Uuid} (h : draftName id = draftName id') : id = id' :=
  recordName_injective (String.append_left_inj ".tmp" |>.mp h)

theorem isName_recordName (id : Uuid) : Files.IsName (recordName id) := by
  apply Files.isName_of_length
  · rw [length_recordName]
    decide
  · rw [recordName, String.toList_append, List.mem_append, Uuid.text, String.toList_ofList]
    rintro (h | h)
    · rcases id.eq_or_isHexChar_of_mem_chars h with heq | hhex
      · cases heq
      · exact hhex.2.2.2 rfl
    · revert h
      decide

theorem isName_draftName (id : Uuid) : Files.IsName (draftName id) := by
  apply Files.isName_of_length
  · rw [length_draftName]
    decide
  · rw [draftName, String.toList_append, List.mem_append]
    rintro (h | h)
    · exact (isName_recordName id).no_slash h
    · revert h
      decide

/-! ## The shelf -/

/-- What stands under each name in a directory. -/
abbrev Shelf : Type := String → Option Entry

variable (store : DirectoryStore)

/-- What stands under each name in the directory of a store. -/
def shelf (files : Files) : Shelf := fun name => files.get? (files.resolve store.root ++ [name])

/-- An operation of keeping a record, on the shelf. -/
def shelve (record : WorkflowRecord) (shelf : Shelf) : RecordStage → Except CheckError Unit × Shelf
  | .makeRoot => (.ok (), shelf)
  | .writeDraft =>
      let draft := draftName record.workflow.id
      if shelf draft = some .directory then
        (.error (.file (store.draftPath record.workflow.id) .isADirectory), shelf)
      else (.ok (), Function.update shelf draft (some (.file (document record))))
  | .putInPlace =>
      let draft := draftName record.workflow.id
      let target := recordName record.workflow.id
      let path := store.recordPath record.workflow.id
      match shelf draft with
      | none => (.error (.file path .notFound), shelf)
      | some .directory => (.error (.file path .isADirectory), shelf)
      | some (.file text) =>
          if shelf target = some .directory then (.error (.file path .isADirectory), shelf)
          else
            (.ok (), Function.update (Function.update shelf draft none) target (some (.file text)))

/-- Operations on the shelf, until one fails. -/
def shelveAll (record : WorkflowRecord) : List RecordStage → Shelf → Except CheckError Unit × Shelf
  | [], shelf => (.ok (), shelf)
  | stage :: rest, shelf =>
      match store.shelve record shelf stage with
      | (.ok (), shelf) => shelveAll record rest shelf
      | (.error e, shelf) => (.error e, shelf)

/-- The record of a workflow, by what stands under its name. -/
def loadEntry (id : Uuid) : Option Entry → Except CheckError (Option WorkflowRecord)
  | none => .ok none
  | some .directory => .error (.file (store.recordPath id) .isADirectory)
  | some (.file text) =>
      match WorkflowRecord.decode.decodeText text with
      | .ok record => .ok (some record)
      | .error e => .error (.serialization e.message)

/-- No file is in the way of the directory of a store. -/
structure Open (files : Files) : Prop where
  rooted : files.Rooted
  clear : files.Clear (files.resolve store.root)

/-- The directory of a store is there. -/
structure Stands (files : Files) : Prop where
  rooted : files.Rooted
  directory : files.get? (files.resolve store.root) = some .directory

variable {store} {files : Files}

theorem Stands.open (h : store.Stands files) : store.Open files :=
  ⟨h.rooted, h.rooted.clear_of_directory h.directory⟩

theorem resolve_recordPath (files : Files) (id : Uuid) :
    files.resolve (store.recordPath id) = files.resolve store.root ++ [recordName id] :=
  files.resolve_join store.root (isName_recordName id)

theorem resolve_draftPath (files : Files) (id : Uuid) :
    files.resolve (store.draftPath id) = files.resolve store.root ++ [draftName id] := by
  rw [draftPath, recordPath, ← Files.join_append]
  exact files.resolve_join store.root (isName_draftName id)

theorem Open.load_eq (h : store.Open files) (id : Uuid) :
    store.load files id = store.loadEntry id (store.shelf files (recordName id)) := by
  simp only [load, resolve_recordPath, h.rooted.read_of_clear h.clear, shelf]
  cases files.get? (files.resolve store.root ++ [recordName id]) with
  | none => rfl
  | some entry => cases entry <;> rfl

theorem shelf_put (files : Files) (name : String) (entry : Entry) :
    store.shelf (files.put (files.resolve store.root ++ [name]) entry) =
      Function.update (store.shelf files) name (some entry) := by
  funext other
  by_cases h : other = name
  · subst h
    rw [Function.update_self]
    exact Files.get?_put_self entry (by simp)
  · rw [Function.update_of_ne h]
    exact Files.get?_put_of_ne entry fun heq => h (Files.last_injective heq)

theorem shelf_erase (files : Files) (name : String) :
    store.shelf (files.erase (files.resolve store.root ++ [name])) =
      Function.update (store.shelf files) name none := by
  funext other
  by_cases h : other = name
  · subst h
    rw [Function.update_self]
    exact Files.get?_erase_self files (by simp)
  · rw [Function.update_of_ne h]
    exact Files.get?_erase_of_ne files fun heq => h (Files.last_injective heq)

/-! ## Operations on the tree are operations on the shelf -/

theorem Open.makeRoot (h : store.Open files) (record : WorkflowRecord) :
    ∃ after, store.perform record files .makeRoot = (.ok (), after) ∧ store.Stands after ∧
      store.shelf after = store.shelf files := by
  obtain ⟨after, hmake, hhome, hrooted, hdir, hkept⟩ := h.rooted.makeDirectories_of_clear h.clear
  have hresolve : after.resolve store.root = files.resolve store.root := by
    rw [Files.resolve_eq_follow, Files.resolve_eq_follow, hhome]
  refine ⟨after, ?_, ⟨hrooted, ?_⟩, ?_⟩
  · simp only [perform, hmake]
  · rw [hresolve, hdir]
  · funext name
    rw [shelf, shelf, hresolve, hkept]

/-- With a file in the way of its directory, a store fails at once and changes nothing. -/
theorem makeRoot_of_not_open (hrooted : files.Rooted) (h : ¬ store.Open files)
    (record : WorkflowRecord) :
    ∃ e, store.perform record files .makeRoot = (.error e, files) := by
  have hclear : ¬ files.Clear (files.resolve store.root) := fun hclear => h ⟨hrooted, hclear⟩
  obtain ⟨fault, hmake⟩ := hrooted.makeDirectories_of_not_clear hclear
  exact ⟨.file store.root fault, by simp only [perform, hmake]⟩

theorem Stands.put (h : store.Stands files) {name : String}
    (hname : store.shelf files name ≠ some .directory) (text : String) :
    store.Stands (files.put (files.resolve store.root ++ [name]) (.file text)) where
  rooted := h.rooted.putFile h.directory hname text
  directory := (Files.get?_put_of_ne _ (Files.ne_concat _ _)).trans h.directory

theorem Stands.erase (h : store.Stands files) {name : String}
    (hname : store.shelf files name ≠ some .directory) :
    store.Stands (files.erase (files.resolve store.root ++ [name])) where
  rooted := h.rooted.eraseFile hname
  directory := (Files.get?_erase_of_ne files (Files.ne_concat _ _)).trans h.directory

theorem Stands.write_eq (h : store.Stands files) (name text : String) :
    files.write (files.resolve store.root ++ [name]) text =
      if store.shelf files name = some .directory then .error .isADirectory
      else .ok (files.put (files.resolve store.root ++ [name]) (.file text)) :=
  h.rooted.write_eq h.directory name text

theorem Stands.moveFile_eq (h : store.Stands files) (source target : String) :
    files.moveFile (files.resolve store.root ++ [source]) (files.resolve store.root ++ [target]) =
      match store.shelf files source with
      | none => .error .notFound
      | some .directory => .error .isADirectory
      | some (.file text) =>
          if store.shelf files target = some .directory then .error .isADirectory
          else .ok ((files.erase (files.resolve store.root ++ [source])).put
            (files.resolve store.root ++ [target]) (.file text)) :=
  h.rooted.moveFile_eq h.directory source target

/-- Where the directory is there, an operation on the tree is one on the shelf. -/
theorem Stands.perform (h : store.Stands files) (record : WorkflowRecord) (stage : RecordStage) :
    ∃ after, store.perform record files stage =
        ((store.shelve record (store.shelf files) stage).1, after) ∧
      store.Stands after ∧
      store.shelf after = (store.shelve record (store.shelf files) stage).2 := by
  cases stage with
  | makeRoot => exact h.open.makeRoot record
  | writeDraft =>
      simp only [DirectoryStore.perform, resolve_draftPath, h.write_eq, shelve]
      by_cases hdraft : store.shelf files (draftName record.workflow.id) = some .directory
      · simp only [hdraft, ↓reduceIte]
        exact ⟨files, rfl, h, rfl⟩
      · simp only [hdraft, ↓reduceIte]
        exact ⟨_, rfl, h.put hdraft _, shelf_put files _ _⟩
  | putInPlace =>
      simp only [DirectoryStore.perform, resolve_draftPath, resolve_recordPath, h.moveFile_eq,
        shelve]
      cases hdraft : store.shelf files (draftName record.workflow.id) with
      | none => exact ⟨files, rfl, h, rfl⟩
      | some entry =>
          cases entry with
          | directory => exact ⟨files, rfl, h, rfl⟩
          | file text =>
              by_cases htarget : store.shelf files (recordName record.workflow.id) =
                  some .directory
              · simp only [htarget, ↓reduceIte]
                exact ⟨files, rfl, h, rfl⟩
              · simp only [htarget, ↓reduceIte]
                have herased := h.erase (by rw [hdraft]; simp)
                have hshelf := @shelf_erase store files (draftName record.workflow.id)
                refine ⟨_, rfl, herased.put ?_ text, (shelf_put _ _ _).trans (by rw [hshelf])⟩
                rw [hshelf, Function.update_of_ne (recordName_ne_draftName _ _)]
                exact htarget

/-- Where the directory is there, operations on the tree are those on the shelf. -/
theorem Stands.performAll (h : store.Stands files) (record : WorkflowRecord)
    (todo : List RecordStage) :
    ∃ after, store.performAll record todo files =
        ((store.shelveAll record todo (store.shelf files)).1, after) ∧
      store.Stands after ∧
      store.shelf after = (store.shelveAll record todo (store.shelf files)).2 := by
  induction todo generalizing files with
  | nil => exact ⟨files, rfl, h, rfl⟩
  | cons stage rest ih =>
      obtain ⟨next, hnext, hstands, hshelf⟩ := h.perform record stage
      simp only [DirectoryStore.performAll, hnext, shelveAll]
      rcases hshelved : store.shelve record (store.shelf files) stage with ⟨outcome, after⟩
      rw [hshelved] at hshelf
      cases outcome with
      | ok =>
          obtain ⟨last, hlast⟩ := ih hstands
          rw [hshelf] at hlast
          exact ⟨last, hlast⟩
      | error e => exact ⟨next, rfl, hstands, hshelf⟩

/-- Where no file is in the way of the directory, recording is a matter of the shelf. -/
theorem Open.performAll (h : store.Open files) (record : WorkflowRecord)
    (todo : List RecordStage) :
    ∃ after, store.performAll record (.makeRoot :: todo) files =
        ((store.shelveAll record todo (store.shelf files)).1, after) ∧
      store.Stands after ∧
      store.shelf after = (store.shelveAll record todo (store.shelf files)).2 := by
  obtain ⟨next, hnext, hstands, hshelf⟩ := h.makeRoot record
  obtain ⟨after, hafter⟩ := hstands.performAll record todo
  rw [hshelf] at hafter
  refine ⟨after, ?_, hafter.2⟩
  simp only [DirectoryStore.performAll, hnext]
  exact hafter.1

end DirectoryStore

end Preflight
