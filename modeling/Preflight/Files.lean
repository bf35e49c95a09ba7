import Preflight.Failure

/-!
# A tree of files

A tree of files maps paths to entries. A path is the list of names on the way
from the top; an entry is a file with its text, or a directory. The top is always
a directory. An operation reaches its path through the directories before it, and
the first of them that is missing or is a file makes it fail, with the fault the
operating system reports for it.

Texts name paths in the usual way: names divided by slashes, from the top if a
slash stands in front and from `home` otherwise. An empty name and `.` stay where
they are, `..` takes the last name back. There are no links between files. A text
names a file only if it ends in the name of one and goes through directories before.

## Main results

* `get?_put_self`, `get?_put_of_ne` — a written entry is found at its path, and all others
  are left alone.
* `isFile_of_namesFile` — what a text names as a file is one.
-/

namespace Preflight

/-- The names on the way from the top of a tree. -/
abbrev TreePath := List String

/-- What stands at a path. -/
inductive Entry where
  | file (text : String)
  | directory
  deriving DecidableEq, Repr

/-- A tree of files. -/
structure Files where
  /-- Where relative paths begin. -/
  home : TreePath := []
  entries : List (TreePath × Entry) := []
  deriving DecidableEq

namespace Files

/-! ## Paths as texts -/

/-- Go on from a path by one name. -/
def enter (path : TreePath) (name : String) : TreePath :=
  if name = "" ∨ name = "." then path
  else if name = ".." then path.dropLast
  else path ++ [name]

/-- The names between the slashes of a text. -/
def names (text : String) : List String :=
  (Text.splitAtChar '/' text.toList).map String.ofList

/-- Where the path that a text names begins. -/
def start (files : Files) (text : String) : TreePath :=
  if text.toList.head? = some '/' then [] else files.home

/-- The path that a text names. -/
def resolve (files : Files) (text : String) : TreePath :=
  (names text).foldl enter (files.start text)

/-- The text of a path one name further on. -/
def join (text name : String) : String :=
  if text.isEmpty then name
  else if text.toList.getLast? = some '/' then text ++ name
  else text ++ "/" ++ name

/-! ## Entries -/

/-- What stands at a path. -/
def get? (files : Files) (path : TreePath) : Option Entry :=
  if path = [] then some .directory else files.entries.lookup path

/-- Put an entry into a list, in the place of an earlier one at its path if there is one. -/
def putEntry (path : TreePath) (entry : Entry) : List (TreePath × Entry) → List (TreePath × Entry)
  | [] => [(path, entry)]
  | (other, old) :: rest =>
      if other = path then (path, entry) :: rest else (other, old) :: putEntry path entry rest

/-- The tree with an entry at a path. -/
def put (files : Files) (path : TreePath) (entry : Entry) : Files :=
  { files with entries := putEntry path entry files.entries }

/-- The tree with nothing at a path. -/
def erase (files : Files) (path : TreePath) : Files :=
  { files with entries := files.entries.filter fun (other, _) => other ≠ path }

/-- The names that stand directly below a path. -/
def namesBelow (files : Files) (path : TreePath) : List String :=
  files.entries.filterMap fun (other, _) =>
    match other.getLast? with
    | some name => if other.dropLast = path then some name else none
    | none => none

theorem lookup_putEntry_self (path : TreePath) (entry : Entry) (entries) :
    (putEntry path entry entries).lookup path = some entry := by
  induction entries with
  | nil => simp [putEntry]
  | cons head rest ih =>
    obtain ⟨other, old⟩ := head
    by_cases h : other = path
    · simp [putEntry, h]
    · have : (path == other) = false := by simp [Ne.symm h]
      simp [putEntry, h, List.lookup_cons, this, ih]

theorem lookup_putEntry_of_ne {path other : TreePath} (entry : Entry) (entries)
    (h : other ≠ path) : (putEntry path entry entries).lookup other = entries.lookup other := by
  induction entries with
  | nil => simp [putEntry, List.lookup_cons, beq_false_of_ne h]
  | cons head rest ih =>
    obtain ⟨at', old⟩ := head
    by_cases hp : at' = path
    · subst hp
      simp [putEntry, List.lookup_cons, beq_false_of_ne h]
    · by_cases ho : other = at'
      · subst ho
        simp [putEntry, hp]
      · simp [putEntry, hp, List.lookup_cons, beq_false_of_ne ho, ih]

theorem get?_put_self {files : Files} {path : TreePath} (entry : Entry) (h : path ≠ []) :
    (files.put path entry).get? path = some entry := by
  simp [get?, put, h, lookup_putEntry_self]

theorem get?_put_of_ne {files : Files} {path other : TreePath} (entry : Entry)
    (h : other ≠ path) : (files.put path entry).get? other = files.get? other := by
  simp [get?, put, lookup_putEntry_of_ne entry files.entries h]

/-! ## Operations -/

/-- Pass through the directories on the way to the last of the names in `ahead`. -/
def passThrough (files : Files) : TreePath → List String → Except FileFault Unit
  | _, [] => .ok ()
  | _, [_] => .ok ()
  | path, name :: next :: ahead =>
      let path := path ++ [name]
      match files.get? path with
      | none => .error .notFound
      | some (.file _) => .error .notADirectory
      | some .directory => passThrough files path (next :: ahead)

/-- Reach the directory that a path leads into. -/
def reach (files : Files) (path : TreePath) : Except FileFault Unit :=
  files.passThrough [] path

/-- Is there a directory at a path? -/
def isDirectory (files : Files) (path : TreePath) : Bool :=
  (files.reach path).toBool && files.get? path = some .directory

/-- Is there a file at a path? -/
def isFile (files : Files) (path : TreePath) : Bool :=
  (files.reach path).toBool &&
    match files.get? path with
    | some (.file _) => true
    | _ => false

/-- Do names lead to a file? Each of them but the last has to lead into a directory, and the last one
is the name of the file itself. -/
def leadsToFile (files : Files) : TreePath → List String → Bool
  | _, [] => false
  | path, [name] =>
      !(name = "" || name = "." || name = "..") && files.isFile (path ++ [name])
  | path, name :: next :: ahead =>
      files.isDirectory (enter path name) && files.leadsToFile (enter path name) (next :: ahead)

/-- Does a text name a file? -/
def namesFile (files : Files) (text : String) : Bool :=
  files.leadsToFile (files.start text) (names text)

theorem isFile_of_leadsToFile {files : Files} {path : TreePath} {ahead : List String}
    (h : files.leadsToFile path ahead = true) : files.isFile (ahead.foldl enter path) = true := by
  fun_induction leadsToFile files path ahead with
  | case1 path => cases h
  | case2 path name =>
      simp only [Bool.and_eq_true, Bool.not_eq_true', Bool.or_eq_false_iff,
        decide_eq_false_iff_not] at h
      obtain ⟨⟨⟨hempty, hhere⟩, hup⟩, hfile⟩ := h
      have henter : enter path name = path ++ [name] := by simp [enter, hempty, hhere, hup]
      rwa [List.foldl_cons, List.foldl_nil, henter]
  | case3 path name next ahead ih =>
      rw [Bool.and_eq_true] at h
      exact ih h.2

/-- What a text names as a file is one. -/
theorem isFile_of_namesFile {files : Files} {text : String} (h : files.namesFile text = true) :
    files.isFile (files.resolve text) = true :=
  isFile_of_leadsToFile h

/-- The text of a file. -/
def read (files : Files) (path : TreePath) : Except FileFault String :=
  match files.reach path with
  | .error fault => .error fault
  | .ok () =>
      match files.get? path with
      | none => .error .notFound
      | some .directory => .error .isADirectory
      | some (.file text) => .ok text

/-- Write a file, new or in the place of an old one. -/
def write (files : Files) (path : TreePath) (text : String) : Except FileFault Files :=
  match files.reach path with
  | .error fault => .error fault
  | .ok () =>
      match files.get? path with
      | some .directory => .error .isADirectory
      | _ => .ok (files.put path (.file text))

/-- Make the directories of `ahead`, one in the other, below `path`; those that are there stay. -/
def makeDirectoriesFrom (files : Files) : TreePath → List String → Except FileFault Files × Files
  | _, [] => (.ok files, files)
  | path, name :: ahead =>
      let path := path ++ [name]
      match files.get? path with
      | none =>
          let files := files.put path .directory
          makeDirectoriesFrom files path ahead
      | some .directory => makeDirectoriesFrom files path ahead
      | some (.file _) =>
          (.error (if ahead.isEmpty then .alreadyExists else .notADirectory), files)

/-- Make a directory and those before it; the ones made stay even if a later one fails. -/
def makeDirectories (files : Files) (path : TreePath) : Except FileFault Unit × Files :=
  let (outcome, files) := makeDirectoriesFrom files [] path
  (outcome.map fun _ => (), files)

/-- Move a file, onto an old one if there is one at its new path. -/
def moveFile (files : Files) (source target : TreePath) : Except FileFault Files :=
  match files.reach source with
  | .error fault => .error fault
  | .ok () =>
      match files.get? source with
      | none => .error .notFound
      | some .directory => .error .isADirectory
      | some (.file text) =>
          match files.reach target with
          | .error fault => .error fault
          | .ok () =>
              match files.get? target with
              | some .directory => .error .isADirectory
              | _ => .ok ((files.erase source).put target (.file text))

end Files

end Preflight
