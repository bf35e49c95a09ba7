/-!
# White space and trimming

A *blank* is a character with the Unicode `White_Space` property. The class is
small and closed, so it is written out here rather than looked up: the ASCII
blanks, the two Latin-1 ones, and the spaces and separators of the general
punctuation and CJK blocks.

All algorithms on text work on `List Char`, where recursion is structural; a
`String` is opened with `toList` at the edge and closed with `String.ofList`.

## Main results

* `trimEnd_append` — what `trimEnd` removes is a run of blanks at the end.
* `trimEnd_append_of_last`, `trimEnd_append_blanks` — where trimming ends, and what it
  passes over.
* `isBlank_of_isWhitespace` — every ASCII blank of the core library is one.
-/

namespace Preflight.Text

/-- The code points of the `White_Space` property. -/
def isBlank (c : Char) : Bool :=
  let n := c.toNat
  (9 ≤ n && n ≤ 13) || n == 0x20 || n == 0x85 || n == 0xA0 || n == 0x1680 ||
    (0x2000 ≤ n && n ≤ 0x200A) || n == 0x2028 || n == 0x2029 || n == 0x202F ||
    n == 0x205F || n == 0x3000

/-- Drop the blanks at the beginning. -/
def trimStart (cs : List Char) : List Char :=
  cs.dropWhile isBlank

/-- Drop the blanks at the end. -/
def trimEnd (cs : List Char) : List Char :=
  (cs.reverse.dropWhile isBlank).reverse

/-- Drop the blanks at both ends. -/
def trim (cs : List Char) : List Char :=
  trimEnd (trimStart cs)

/-- A text that trimming leaves empty. -/
def isAllBlank (s : String) : Bool :=
  s.toList.all isBlank

theorem isBlank_of_isWhitespace {c : Char} (h : c.isWhitespace = true) : isBlank c = true := by
  simp only [Char.isWhitespace, Bool.or_eq_true, decide_eq_true_eq] at h
  rcases h with ((h | h) | h) | h <;> subst h <;> decide

/-- The removed part of `trimEnd` stands behind the kept part and is blank. -/
theorem trimEnd_append (cs : List Char) :
    ∃ blanks, cs = trimEnd cs ++ blanks ∧ ∀ c ∈ blanks, isBlank c = true := by
  refine ⟨(cs.reverse.takeWhile isBlank).reverse, ?_, ?_⟩
  · rw [trimEnd, ← List.reverse_append, List.takeWhile_append_dropWhile, List.reverse_reverse]
  · intro c hc
    exact List.all_eq_true.1 List.all_takeWhile c (List.mem_reverse.1 hc)

/-- What stands behind a character that is no blank is trimmed on its own. -/
theorem trimEnd_append_of_last {c : Char} (h : isBlank c = false) (xs ys : List Char) :
    trimEnd (xs ++ c :: ys) = xs ++ c :: trimEnd ys := by
  unfold trimEnd
  rw [List.reverse_append, List.reverse_cons, List.append_assoc, List.dropWhile_append]
  cases hblank : ys.reverse.dropWhile isBlank with
  | nil => simp [h]
  | cons d rest => simp

/-- Blanks at the end make no difference. -/
theorem trimEnd_append_blanks {blanks : List Char} (h : ∀ c ∈ blanks, isBlank c = true)
    (xs : List Char) : trimEnd (xs ++ blanks) = trimEnd xs := by
  have hreverse : ∀ c ∈ blanks.reverse, isBlank c = true := fun c hc => h c (List.mem_reverse.1 hc)
  rw [trimEnd, List.reverse_append, List.dropWhile_append_of_pos hreverse, ← trimEnd]

/-- What is left does not end in a blank. -/
theorem not_isBlank_of_mem_getLast?_trimEnd (cs : List Char) :
    ∀ c ∈ (trimEnd cs).getLast?, isBlank c = false := by
  intro c hc
  rw [trimEnd, List.getLast?_reverse] at hc
  have hhead := List.head?_dropWhile_not isBlank cs.reverse
  rwa [Option.mem_def.1 hc] at hhead

end Preflight.Text
