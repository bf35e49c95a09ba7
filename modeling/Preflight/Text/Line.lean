import Preflight.Text.Blank

/-!
# The first line of a text

A failure text may run over several lines; what is shown beside a step is its
first line, without the blanks at its end. A line ends at a line feed. A
carriage return before the line feed is a blank and goes with the blanks at the
end, so it needs no rule of its own; one inside the line is kept.

## Main results

* `firstLineChars_prefix`, `not_mem_firstLineChars` — it is a beginning of the text, and
  without a line feed.
-/

namespace Preflight.Text

/-- The characters before the first line feed, less the blanks at their end. -/
def firstLineChars (cs : List Char) : List Char :=
  trimEnd (cs.takeWhile (· ≠ '\n'))

/-- The first line of a text. -/
def firstLine (s : String) : String :=
  String.ofList (firstLineChars s.toList)

theorem firstLineChars_prefix (cs : List Char) : firstLineChars cs <+: cs := by
  obtain ⟨blanks, hblanks, _⟩ := trimEnd_append (cs.takeWhile (· ≠ '\n'))
  have htrim : firstLineChars cs <+: cs.takeWhile (· ≠ '\n') := ⟨blanks, hblanks.symm⟩
  exact htrim.trans (List.takeWhile_prefix _)

theorem not_mem_firstLineChars (cs : List Char) : '\n' ∉ firstLineChars cs := by
  intro h
  obtain ⟨blanks, hblanks, -⟩ := trimEnd_append (cs.takeWhile (· ≠ '\n'))
  have hline : '\n' ∈ cs.takeWhile (· ≠ '\n') := hblanks ▸ List.mem_append_left blanks h
  simpa using List.all_eq_true.1 List.all_takeWhile _ hline

end Preflight.Text
