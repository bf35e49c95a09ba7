/-!
# Cutting a text to a limit

A text of more than `limit` characters is cut so that the result has exactly
`limit` characters, the last three of them dots that show the cut. A limit of
three or less leaves room for the dots only. Characters are counted, not bytes.

## Main results

* `cut_of_lt_length` — what a cut leaves, in one equation.
* `exists_cut_eq` — the result is a beginning of the text with dots behind.
* `length_cut` — the result is as long as the text or the limit, whichever is less.
-/

namespace Preflight.Text

/-- `count` dots. -/
def dots (count : Nat) : List Char :=
  List.replicate count '.'

/-- Cut a text to at most `limit` characters, ending a cut text in dots. -/
def cut (cs : List Char) (limit : Nat) : List Char :=
  if cs.length ≤ limit then cs
  else if limit ≤ 3 then dots limit
  else cs.take (limit - 3) ++ dots 3

/-- Cut a text to at most `limit` characters, ending a cut text in dots. -/
def ellipsis (s : String) (limit : Nat) : String :=
  String.ofList (cut s.toList limit)

theorem cut_of_length_le {cs : List Char} {limit : Nat} (h : cs.length ≤ limit) :
    cut cs limit = cs :=
  if_pos h

/-- A limit of three or less is no case of its own: nothing is kept, and the dots fill it. -/
theorem cut_of_lt_length {cs : List Char} {limit : Nat} (h : limit < cs.length) :
    cut cs limit = cs.take (limit - 3) ++ dots (min limit 3) := by
  rw [cut, if_neg (Nat.not_le.2 h)]
  split
  · rename_i hsmall
    rw [Nat.sub_eq_zero_of_le hsmall, Nat.min_eq_left hsmall, List.take_zero, List.nil_append]
  · rename_i hlarge
    rw [Nat.min_eq_right (Nat.le_of_not_le hlarge)]

/-- What is left of a text is a beginning of it, with dots behind if it has been cut. -/
theorem exists_cut_eq (cs : List Char) (limit : Nat) :
    ∃ kept count, kept <+: cs ∧ cut cs limit = kept ++ dots count := by
  by_cases hshort : cs.length ≤ limit
  · exact ⟨cs, 0, List.prefix_rfl, by rw [cut_of_length_le hshort, dots, List.replicate_zero,
      List.append_nil]⟩
  · exact ⟨_, _, List.take_prefix _ cs, cut_of_lt_length (Nat.lt_of_not_le hshort)⟩

theorem length_cut (cs : List Char) (limit : Nat) :
    (cut cs limit).length = min cs.length limit := by
  by_cases hshort : cs.length ≤ limit
  · rw [cut_of_length_le hshort, Nat.min_eq_left hshort]
  · have hlong : limit < cs.length := Nat.lt_of_not_le hshort
    rw [cut_of_lt_length hlong, dots, List.length_append, List.length_take, List.length_replicate]
    omega

theorem length_cut_le (cs : List Char) (limit : Nat) : (cut cs limit).length ≤ limit := by
  rw [length_cut]
  exact Nat.min_le_right _ _

end Preflight.Text
