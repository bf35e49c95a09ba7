import Preflight.Files

/-!
# Operations inside a directory

In a tree of files as an operating system keeps it every entry stands in a
directory (`Files.Rooted`). Then a directory has directories alone on the way to
it, and an operation on a name in it depends on nothing but what stands at that
name: the way there is never in doubt.

Making a directory is the one operation that walks along the way itself. It does
all or nothing: a file on the way is met before anything is made, since where
something is missing nothing stands beyond it.

## Main results

* `Rooted.makeDirectories_of_clear`, `Rooted.makeDirectories_of_not_clear` — a
  directory is made, or nothing is changed.
* `Rooted.read_of_clear`, `Rooted.write_eq`, `Rooted.moveFile_eq` — the operations in a
  directory, by what stands at the names they are about.
-/

namespace Preflight

namespace Files

/-- Every entry stands in a directory. -/
def Rooted (files : Files) : Prop :=
  ∀ path name, files.get? (path ++ [name]) ≠ none → files.get? path = some .directory

/-- No file stands at a path, nor on the way to it. -/
def Clear (files : Files) (path : TreePath) : Prop :=
  ∀ before, before <+: path → ∀ text, files.get? before ≠ some (.file text)

variable {files : Files} {path dir : TreePath}

/-! ## The empty tree -/

theorem get?_empty (h : path ≠ []) : ({} : Files).get? path = none := by
  rw [get?, if_neg h]
  rfl

theorem rooted_empty : ({} : Files).Rooted := by
  intro path name hentry
  exact absurd (get?_empty (by simp)) hentry

theorem clear_empty (path : TreePath) : ({} : Files).Clear path := by
  intro before _ text hfile
  by_cases hnil : before = []
  · subst hnil
    cases hfile
  · rw [get?_empty hnil] at hfile
    cases hfile

/-! ## The way to a directory -/

theorem Rooted.directory_of_append (h : files.Rooted) {name : String} {names : List String}
    (hentry : files.get? (path ++ name :: names) ≠ none) :
    files.get? path = some .directory := by
  induction names generalizing path name with
  | nil => exact h path name hentry
  | cons next names ih =>
      have hnext : files.get? (path ++ [name]) = some .directory := by
        rw [List.append_cons] at hentry
        exact ih hentry
      exact h path name (by rw [hnext]; simp)

/-- A directory has directories alone on the way to it. -/
theorem Rooted.directory_of_prefix (h : files.Rooted)
    (hpath : files.get? path = some .directory) {before : TreePath} (hbefore : before <+: path) :
    files.get? before = some .directory := by
  obtain ⟨names, rfl⟩ := hbefore
  cases names with
  | nil => rwa [List.append_nil] at hpath
  | cons name names => exact h.directory_of_append (by rw [hpath]; simp)

/-! ## Reaching a place in a directory -/

theorem passThrough_cons_concat (files : Files) (path : TreePath) (name : String)
    (ahead : List String) (last : String) :
    files.passThrough path (name :: (ahead ++ [last])) =
      match files.get? (path ++ [name]) with
      | none => .error .notFound
      | some (.file _) => .error .notADirectory
      | some .directory => files.passThrough (path ++ [name]) (ahead ++ [last]) := by
  cases ahead <;> rfl

theorem passThrough_concat_eq_ok {ahead : List String} {last : String}
    (h : ∀ before, before <+: ahead → files.get? (path ++ before) = some .directory) :
    files.passThrough path (ahead ++ [last]) = .ok () := by
  induction ahead generalizing path with
  | nil => rfl
  | cons name ahead ih =>
      have hname := h [name] (by simp)
      rw [List.cons_append, passThrough_cons_concat, hname]
      apply ih
      intro before hbefore
      have hnext := h (name :: before) (by simpa using hbefore)
      rwa [List.append_assoc]

theorem passThrough_concat_of_clear {ahead : List String} {last : String}
    (h : ∀ before, before <+: ahead → ∀ text, files.get? (path ++ before) ≠ some (.file text)) :
    files.passThrough path (ahead ++ [last]) = .ok () ∨
      files.passThrough path (ahead ++ [last]) = .error .notFound := by
  induction ahead generalizing path with
  | nil => exact .inl rfl
  | cons name ahead ih =>
      rw [List.cons_append, passThrough_cons_concat]
      split
      · exact .inr rfl
      · rename_i text hfile
        exact absurd hfile (h [name] (by simp) text)
      · apply ih
        intro before hbefore text
        have hnext := h (name :: before) (by simpa using hbefore) text
        rwa [List.append_assoc]

theorem Rooted.reach_eq_ok (h : files.Rooted) (hdir : files.get? dir = some .directory)
    (name : String) : files.reach (dir ++ [name]) = .ok () :=
  passThrough_concat_eq_ok fun _ hbefore => h.directory_of_prefix hdir hbefore

theorem Rooted.reach_of_entry (h : files.Rooted) (hentry : files.get? path ≠ none) :
    files.reach path = .ok () := by
  by_cases hnil : path = []
  · subst hnil
    rfl
  · obtain ⟨dir, name, rfl⟩ : ∃ dir name, path = dir ++ [name] :=
      ⟨_, _, (List.dropLast_concat_getLast hnil).symm⟩
    exact h.reach_eq_ok (h dir name hentry) name

theorem Clear.reach (h : files.Clear dir) (name : String) :
    files.reach (dir ++ [name]) = .ok () ∨ files.reach (dir ++ [name]) = .error .notFound :=
  passThrough_concat_of_clear h

theorem Rooted.clear_of_directory (h : files.Rooted) (hdir : files.get? dir = some .directory) :
    files.Clear dir := by
  intro before hbefore text hfile
  rw [h.directory_of_prefix hdir hbefore] at hfile
  cases hfile

/-- A file on the way to something else stops whoever wants to get there. -/
theorem Rooted.passThrough_of_file (h : files.Rooted) {before ahead : List String} {text : String}
    (hbefore : before <+: ahead) (hne : before ≠ []) (hself : before ≠ ahead)
    (hfile : files.get? (path ++ before) = some (.file text)) :
    files.passThrough path ahead = .error .notADirectory := by
  induction ahead generalizing path before with
  | nil => exact absurd (List.prefix_nil.mp hbefore) hne
  | cons name ahead ih =>
      cases before with
      | nil => exact absurd rfl hne
      | cons first rest =>
          obtain ⟨rfl, hrest⟩ := List.cons_prefix_cons.mp hbefore
          have hshort : rest ≠ ahead := fun heq => hself (by rw [heq])
          cases ahead with
          | nil => exact absurd (List.prefix_nil.mp hrest) hshort
          | cons next ahead =>
              cases rest with
              | nil => simp only [passThrough, hfile]
              | cons second rest =>
                  rw [List.append_cons] at hfile
                  have hdir := h.directory_of_append (by rw [hfile]; simp)
                  simp only [passThrough, hdir]
                  exact ih hrest (by simp) hshort hfile

/-! ## Making directories -/

/-- Directories are made along a way without files, and nothing else is changed. -/
theorem makeDirectoriesFrom_of_clear {ahead : List String}
    (h : ∀ before, before <+: ahead → before ≠ [] → ∀ text,
      files.get? (path ++ before) ≠ some (.file text)) :
    ∃ after, files.makeDirectoriesFrom path ahead = (.ok after, after) ∧ after.home = files.home ∧
      (∀ before, before <+: ahead → before ≠ [] →
        after.get? (path ++ before) = some .directory) ∧
      ∀ other, (∀ before, before <+: ahead → before ≠ [] → other ≠ path ++ before) →
        after.get? other = files.get? other := by
  induction ahead generalizing files path with
  | nil =>
      refine ⟨files, rfl, rfl, ?_, fun _ _ => rfl⟩
      intro before hbefore hne
      exact absurd (List.prefix_nil.mp hbefore) hne
  | cons name ahead ih =>
      -- The next directory is there in `next`, and all else is as before.
      have hnext : ∃ next : Files, files.makeDirectoriesFrom path (name :: ahead) =
          next.makeDirectoriesFrom (path ++ [name]) ahead ∧ next.home = files.home ∧
          next.get? (path ++ [name]) = some .directory ∧
          ∀ other, other ≠ path ++ [name] → next.get? other = files.get? other := by
        simp only [makeDirectoriesFrom]
        cases hentry : files.get? (path ++ [name]) with
        | none =>
            exact ⟨files.put (path ++ [name]) .directory, rfl, rfl,
              get?_put_self _ (by simp), fun other hother => get?_put_of_ne _ hother⟩
        | some entry =>
            cases entry with
            | directory => exact ⟨files, rfl, rfl, hentry, fun _ _ => rfl⟩
            | file text => exact absurd hentry (h [name] (by simp) (by simp) text)
      obtain ⟨next, hmake, hhome, hself, hothers⟩ := hnext
      obtain ⟨after, hafter, hafterHome, hmade, hkept⟩ := @ih next (path ++ [name]) (by
        intro before hbefore hne text
        rw [hothers _ (by simpa using hne), List.append_assoc]
        exact h (name :: before) (by simpa using hbefore) (by simp) text)
      refine ⟨after, hmake.trans hafter, hafterHome.trans hhome, ?_, ?_⟩
      · intro before hbefore hne
        cases before with
        | nil => exact absurd rfl hne
        | cons first rest =>
            obtain ⟨rfl, hrest⟩ := List.cons_prefix_cons.mp hbefore
            by_cases hnil : rest = []
            · subst hnil
              rw [hkept _ (by simp), hself]
            · have hdir := hmade rest hrest hnil
              rwa [List.append_assoc] at hdir
      · intro other hother
        rw [hkept other fun before hbefore hne => ?_, hothers other ?_]
        · exact hother [name] (by simp) (by simp)
        · rw [List.append_assoc]
          exact hother (name :: before) (by simpa using hbefore) (by simp)

/-- Where a file is in the way, nothing is made. -/
theorem makeDirectoriesFrom_of_file (hrooted : files.Rooted) {ahead : List String}
    (h : ∃ before text, before <+: ahead ∧ before ≠ [] ∧
      files.get? (path ++ before) = some (.file text)) :
    ∃ fault, files.makeDirectoriesFrom path ahead = (.error fault, files) := by
  obtain ⟨before, text, hbefore, hne, hfile⟩ := h
  induction ahead generalizing path before with
  | nil => exact absurd (List.prefix_nil.mp hbefore) hne
  | cons name ahead ih =>
      cases before with
      | nil => exact absurd rfl hne
      | cons first rest =>
          obtain ⟨rfl, hrest⟩ := List.cons_prefix_cons.mp hbefore
          simp only [makeDirectoriesFrom]
          cases rest with
          | nil =>
              rw [hfile]
              exact ⟨_, rfl⟩
          | cons next rest =>
              have hnext : (path ++ [first]) ++ next :: rest = path ++ first :: next :: rest := by
                simp
              have hdir : files.get? (path ++ [first]) = some .directory :=
                hrooted.directory_of_append (by rw [hnext, hfile]; simp)
              rw [hdir]
              exact ih (next :: rest) hrest (by simp) (by rw [hnext, hfile])

/-- Where no file is in the way, **a directory is made** with those before it, and what stands in
it is as before. -/
theorem Rooted.makeDirectories_of_clear (h : files.Rooted) (hclear : files.Clear dir) :
    ∃ after, files.makeDirectories dir = (.ok (), after) ∧ after.home = files.home ∧ after.Rooted ∧
      after.get? dir = some .directory ∧
      ∀ name, after.get? (dir ++ [name]) = files.get? (dir ++ [name]) := by
  obtain ⟨after, hafter, hhome, hmade, hkept⟩ := @makeDirectoriesFrom_of_clear files [] dir
    fun before hbefore _ => hclear before hbefore
  have hway : ∀ before, before <+: dir → after.get? before = some .directory := by
    intro before hbefore
    by_cases hnil : before = []
    · subst hnil
      rfl
    · exact hmade before hbefore hnil
  have hothers : ∀ other, ¬ other <+: dir → after.get? other = files.get? other := by
    intro other hother
    apply hkept
    rintro before hbefore _ rfl
    exact hother hbefore
  refine ⟨after, ?_, hhome, ?_, hway dir List.prefix_rfl, fun name => hothers _ ?_⟩
  · simp [makeDirectories, hafter, Except.map]
  · intro path name hentry
    by_cases hpath : path <+: dir
    · exact hway path hpath
    · have hlast : ¬ path ++ [name] <+: dir := fun hlast =>
        hpath ((List.prefix_append path [name]).trans hlast)
      rw [hothers _ hlast] at hentry
      rw [hothers _ hpath]
      exact h path name hentry
  · intro hprefix
    have hlength := hprefix.length_le
    rw [List.length_append, List.length_singleton] at hlength
    omega

/-- Where a file is in the way of a directory, **nothing is made** at all. -/
theorem Rooted.makeDirectories_of_not_clear (h : files.Rooted) (hclear : ¬ files.Clear dir) :
    ∃ fault, files.makeDirectories dir = (.error fault, files) := by
  simp only [Clear, Classical.not_forall, Classical.not_not, ne_eq] at hclear
  obtain ⟨before, hbefore, text, hfile⟩ := hclear
  have hne : before ≠ [] := by
    rintro rfl
    cases hfile
  obtain ⟨fault, hmake⟩ := @makeDirectoriesFrom_of_file files [] h dir
    ⟨before, text, hbefore, hne, hfile⟩
  refine ⟨fault, ?_⟩
  simp [makeDirectories, hmake, Except.map]

/-! ## What stands in a directory -/

theorem lookup_filter_of_ne {path other : TreePath} (entries : List (TreePath × Entry))
    (h : other ≠ path) :
    (entries.filter fun (at', _) => at' ≠ path).lookup other = entries.lookup other := by
  induction entries with
  | nil => rfl
  | cons head rest ih =>
      obtain ⟨at', entry⟩ := head
      by_cases hpath : at' = path
      · subst hpath
        simpa [List.lookup_cons, beq_false_of_ne h] using ih
      · by_cases hother : other = at'
        · subst hother
          simp [hpath]
        · simpa [hpath, List.lookup_cons, beq_false_of_ne hother] using ih

theorem lookup_filter_self (path : TreePath) (entries : List (TreePath × Entry)) :
    (entries.filter fun (at', _) => at' ≠ path).lookup path = none := by
  induction entries with
  | nil => rfl
  | cons head rest ih =>
      obtain ⟨at', entry⟩ := head
      by_cases hpath : at' = path
      · simpa [hpath] using ih
      · simpa [hpath, List.lookup_cons, beq_false_of_ne (Ne.symm hpath)] using ih

theorem get?_erase_self (files : Files) (h : path ≠ []) : (files.erase path).get? path = none := by
  rw [get?, if_neg h]
  exact lookup_filter_self path files.entries

theorem get?_erase_of_ne (files : Files) {other : TreePath} (h : other ≠ path) :
    (files.erase path).get? other = files.get? other := by
  by_cases hnil : other = []
  · subst hnil
    rfl
  · rw [get?, get?, if_neg hnil, if_neg hnil]
    exact lookup_filter_of_ne files.entries h

theorem Rooted.putFile (h : files.Rooted) (hdir : files.get? dir = some .directory) {name : String}
    (hentry : files.get? (dir ++ [name]) ≠ some .directory) (text : String) :
    (files.put (dir ++ [name]) (.file text)).Rooted := by
  intro path last hlast
  by_cases hself : path ++ [last] = dir ++ [name]
  · obtain ⟨rfl, _⟩ := List.append_inj' hself rfl
    rw [get?_put_of_ne _ (by simp), hdir]
  · rw [get?_put_of_ne _ hself] at hlast
    have hpath := h path last hlast
    have hne : path ≠ dir ++ [name] := by
      rintro rfl
      exact hentry hpath
    rw [get?_put_of_ne _ hne, hpath]

theorem Rooted.eraseFile (h : files.Rooted) (hentry : files.get? path ≠ some .directory) :
    (files.erase path).Rooted := by
  intro before last hlast
  have hself : before ++ [last] ≠ path := by
    rintro rfl
    exact hlast (get?_erase_self files (by simp))
  rw [get?_erase_of_ne files hself] at hlast
  have hbefore := h before last hlast
  have hne : before ≠ path := by
    rintro rfl
    exact hentry hbefore
  rw [get?_erase_of_ne files hne, hbefore]

/-- What reading comes to where an entry stands, or none. -/
def textOf : Option Entry → Except FileFault String
  | none => .error .notFound
  | some .directory => .error .isADirectory
  | some (.file text) => .ok text

/-- A file in a directory is read, and nothing is found in a directory that is not there. -/
theorem Rooted.read_of_clear (h : files.Rooted) (hclear : files.Clear dir) (name : String) :
    files.read (dir ++ [name]) = textOf (files.get? (dir ++ [name])) := by
  by_cases hdir : files.get? dir = some .directory
  · rw [read, h.reach_eq_ok hdir]
    cases files.get? (dir ++ [name]) with
    | none => rfl
    | some entry => cases entry <;> rfl
  · have hnone : files.get? (dir ++ [name]) = none := by
      cases hentry : files.get? (dir ++ [name]) with
      | none => rfl
      | some entry => exact absurd (h dir name (by rw [hentry]; simp)) hdir
    rcases hclear.reach name with hreach | hreach <;> simp only [read, hnone, hreach, textOf]

/-- What is not found is not there, and no file is in its way. -/
theorem Rooted.clear_of_read (h : files.Rooted) (hread : files.read path = .error .notFound) :
    files.Clear path ∧ files.get? path = none := by
  have hnone : files.get? path = none := by
    cases hentry : files.get? path with
    | none => rfl
    | some entry =>
        rw [read, h.reach_of_entry (by rw [hentry]; simp), hentry] at hread
        cases entry <;> cases hread
  refine ⟨?_, hnone⟩
  intro before hbefore text hfile
  have hne : before ≠ [] := by
    rintro rfl
    cases hfile
  have hself : before ≠ path := by
    rintro rfl
    rw [hnone] at hfile
    cases hfile
  have hreach : files.reach path = .error .notADirectory :=
    h.passThrough_of_file hbefore hne hself hfile
  rw [read, hreach] at hread
  cases hread

section Standing

variable (h : files.Rooted) (hdir : files.get? dir = some .directory)
include h hdir

theorem Rooted.write_eq (name text : String) :
    files.write (dir ++ [name]) text =
      if files.get? (dir ++ [name]) = some .directory then .error .isADirectory
      else .ok (files.put (dir ++ [name]) (.file text)) := by
  rw [write, h.reach_eq_ok hdir]
  cases files.get? (dir ++ [name]) with
  | none => rfl
  | some entry => cases entry <;> rfl

theorem Rooted.moveFile_eq (source target : String) :
    files.moveFile (dir ++ [source]) (dir ++ [target]) =
      match files.get? (dir ++ [source]) with
      | none => .error .notFound
      | some .directory => .error .isADirectory
      | some (.file text) =>
          if files.get? (dir ++ [target]) = some .directory then .error .isADirectory
          else .ok ((files.erase (dir ++ [source])).put (dir ++ [target]) (.file text)) := by
  rw [moveFile, h.reach_eq_ok hdir]
  cases files.get? (dir ++ [source]) with
  | none => rfl
  | some entry =>
      cases entry with
      | directory => rfl
      | file text =>
          simp only [h.reach_eq_ok hdir]
          cases files.get? (dir ++ [target]) with
          | none => rfl
          | some entry => cases entry <;> rfl

end Standing

end Files

end Preflight
