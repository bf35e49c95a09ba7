import Preflight.Text.Blank

/-!
# The lines of a file of variables

A *logical* line ends at the end of a line of the text, unless a quotation is
still open there or the end itself is escaped; it ends earlier at a comment, which
begins with a number sign behind a blank and lasts until the end of the line. A
line whose first sign is a number sign is a comment as a whole. A text that ends
within a logical line has no such line.

`LineState` is all that has to be known of a line to tell whether it goes on.

## Main results

* `rest_length_lt` — a logical line takes something from the text.
-/

namespace Preflight.EnvFile

/-- What is known of a line up to some point. -/
inductive LineState where
  | plain
  /-- Behind a blank. -/
  | blank
  /-- Behind a backslash. -/
  | escaped
  /-- Between double quotes. -/
  | weak
  | weakEscaped
  /-- Between single quotes. -/
  | strong
  | strongEscaped
  deriving DecidableEq, Repr

namespace LineState

/-- The state behind a character outside of quotes that is no blank. -/
def opened (c : Char) : LineState :=
  if c = '\\' then escaped
  else if c = '"' then weak
  else if c = '\'' then strong
  else plain

/-- The state behind one more character. -/
def next : LineState → Char → LineState
  | plain, c => if Text.isBlank c && c ≠ '\n' && c ≠ '\r' then blank else opened c
  | blank, c => opened c
  | escaped, _ => plain
  | weak, c => if c = '\\' then weakEscaped else if c = '"' then plain else weak
  | weakEscaped, _ => weak
  | strong, c => if c = '\\' then strongEscaped else if c = '\'' then plain else strong
  | strongEscaped, _ => strong

end LineState

/-- What follows the end of the line. -/
def afterEnd (cs : List Char) : List Char := (cs.dropWhile (· ≠ '\n')).drop 1

/-- The rest of a logical line, and what follows it. -/
def splitFrom : LineState → List Char → Option (List Char × List Char)
  | .plain, [] => some ([], [])
  | _, [] => none
  | state, c :: rest =>
      if state = .blank ∧ c = '#' then some ([], afterEnd rest)
      else if c = '\n' ∧ state.next c = .plain then some ([], rest)
      else (splitFrom (state.next c) rest).map fun (line, after) => (c :: line, after)

/-- Is the line a comment as a whole? -/
def isComment (cs : List Char) : Bool :=
  (Text.trimStart (cs.takeWhile (· ≠ '\n'))).head? = some '#'

/-- The first logical line, and what follows it. -/
def split (cs : List Char) : Option (List Char × List Char) :=
  if isComment cs then some ([], afterEnd cs) else splitFrom .plain cs

theorem afterEnd_length_le (cs : List Char) : (afterEnd cs).length ≤ cs.length := by
  have h := (List.dropWhile_sublist (fun c => decide (c ≠ '\n')) (l := cs)).length_le
  unfold afterEnd
  rw [List.length_drop]
  omega

theorem afterEnd_length_lt {cs : List Char} (h : cs ≠ []) : (afterEnd cs).length < cs.length := by
  have hle := (List.dropWhile_sublist (fun c => decide (c ≠ '\n')) (l := cs)).length_le
  have hpos := List.length_pos_iff.2 h
  unfold afterEnd
  rw [List.length_drop]
  omega

theorem splitFrom_length_le {state : LineState} {cs line after : List Char}
    (h : splitFrom state cs = some (line, after)) : after.length ≤ cs.length - 1 := by
  induction cs generalizing state line after with
  | nil => cases state <;> simp_all [splitFrom]
  | cons c rest ih =>
      have hrec : ∀ {next : LineState} {l a : List Char},
          splitFrom next rest = some (l, a) → a.length ≤ rest.length := fun g => by
        have := ih g
        omega
      simp only [List.length_cons, Nat.add_sub_cancel]
      simp only [splitFrom] at h
      split at h
      · cases h
        exact afterEnd_length_le rest
      · split at h
        · cases h
          exact Nat.le_refl _
        · cases hs : splitFrom (state.next c) rest with
          | none => simp [hs] at h
          | some pair =>
              simp only [hs, Option.map_some, Option.some.injEq, Prod.mk.injEq] at h
              rw [← h.2]
              exact hrec hs

/-- A logical line takes something from the text. -/
theorem rest_length_lt {cs line after : List Char} (hne : cs ≠ [])
    (h : split cs = some (line, after)) : after.length < cs.length := by
  unfold split at h
  split at h
  · cases h
    exact afterEnd_length_lt hne
  · have := splitFrom_length_le h
    have := List.length_pos_iff.2 hne
    omega

/-- The logical lines of a text, up to one that does not end. -/
def lines (cs : List Char) : List (List Char) :=
  if hne : cs = [] then []
  else
    match h : split cs with
    | none => []
    | some (line, after) =>
        have := rest_length_lt hne h
        line :: lines after
termination_by cs.length

end Preflight.EnvFile
