import Preflight.Text.Ellipsis
import Preflight.Text.Line

/-!
# What is shown of a text

A text of a peer may run over many lines and may be long. What is shown of it is its
first line, and of this what a limit leaves.

The first line can be told without a division into lines. Take the beginnings of the text
that stay before its first line feed and do not end in a blank (`IsOpening`). Of two
beginnings of one text the shorter one is a beginning of the longer one, so one opening
has all the others in it, and this is the first line. That it is its own first line
follows from this, without a look at its characters. A division into lines (`lines`) has
a rule for the carriage return in front of a line feed. It makes no difference here, for a
carriage return is a blank and would be trimmed anyway.

What a cut leaves is told by one equation (`cut_of_lt_length`), which has no case for the
limits that leave room for dots only. A second, smaller limit keeps fewer characters than
the first one has kept, so it never reaches the dots that are there already, and this is
why the smaller limit alone counts (`cut_cut`).

A limit counts characters, and a text is stored in bytes. The byte behind what is kept is
one at which a character begins or the text ends, so a cut in the bytes divides no
character (`isValid_byteOffset`).

## Main results

* `firstLine_is_longest_opening` — what the first line of a text is.
* `firstLine_eq_trimEnd_head_lines` — it is the first of the lines, trimmed.
* `ellipsis_told_by_limit` — what is left of a text, and what two limits leave of it.
* `toByteArray_ellipsis` — the bytes of a cut text.
-/

namespace Preflight

namespace Text

variable {cs line : List Char} {limit : Nat}

/-! ## Openings -/

/-- A beginning of a text that stays within its first line and does not end in a blank. -/
structure IsOpening (line text : List Char) : Prop where
  begins : line <+: text
  oneLine : '\n' ∉ line
  trimmed : ∀ c ∈ line.getLast?, isBlank c = false

/-- Trimming spares every beginning that does not end in a blank. -/
theorem prefix_trimEnd (hbegins : line <+: cs) (htrimmed : ∀ c ∈ line.getLast?, isBlank c = false) :
    line <+: trimEnd cs := by
  obtain ⟨rest, rfl⟩ := hbegins
  rcases List.eq_nil_or_concat line with rfl | ⟨front, c, rfl⟩
  · exact List.nil_prefix
  · rw [List.concat_eq_append] at htrimmed ⊢
    have hc : isBlank c = false := htrimmed c (by simp)
    rw [List.append_assoc, List.singleton_append, trimEnd_append_of_last hc]
    exact ⟨trimEnd rest, List.append_assoc front [c] (trimEnd rest)⟩

theorem isOpening_firstLineChars (cs : List Char) : IsOpening (firstLineChars cs) cs where
  begins := firstLineChars_prefix cs
  oneLine := not_mem_firstLineChars cs
  trimmed := not_isBlank_of_mem_getLast?_trimEnd _

namespace IsOpening

/-- **The first line has every opening in it.** -/
theorem prefix_firstLineChars (h : IsOpening line cs) : line <+: firstLineChars cs := by
  obtain ⟨rest, rfl⟩ := h.begins
  have hline : ∀ c ∈ line, decide (c ≠ '\n') = true := by
    intro c hc
    exact decide_eq_true fun heq => h.oneLine (heq ▸ hc)
  rw [firstLineChars, List.takeWhile_append_of_pos hline]
  exact prefix_trimEnd (List.prefix_append line _) h.trimmed

/-- An opening is its own first line, since it is an opening of itself. -/
theorem firstLineChars_eq (h : IsOpening line cs) : firstLineChars line = line := by
  have hself : IsOpening line line := ⟨List.prefix_rfl, h.oneLine, h.trimmed⟩
  have hbegins : firstLineChars line <+: line := firstLineChars_prefix line
  exact hbegins.eq_of_length_le hself.prefix_firstLineChars.length_le

/-- An opening as long as the first line is the first line. -/
theorem eq_firstLineChars (h : IsOpening line cs)
    (hlongest : (firstLineChars cs).length ≤ line.length) : line = firstLineChars cs :=
  h.prefix_firstLineChars.eq_of_length_le hlongest

end IsOpening

/-- A text up to a character that is no blank is an opening if it has no line feed. -/
theorem isOpening_append_singleton {front rest : List Char} {c : Char} (hfeed : '\n' ∉ front)
    (hc : isBlank c = false) : IsOpening (front ++ [c]) (front ++ c :: rest) where
  begins := ⟨rest, by rw [List.append_assoc, List.singleton_append]⟩
  oneLine := by
    intro hmem
    rcases List.mem_append.mp hmem with hfront | hlast
    · exact hfeed hfront
    · rw [← List.mem_singleton.mp hlast] at hc
      exact absurd hc (by decide)
  trimmed := by
    intro last hlast
    rw [List.getLast?_concat] at hlast
    rwa [← Option.some.inj hlast]

/-- Behind the first line there are blanks, and then a line feed or the end of the text. -/
theorem eq_firstLineChars_append (cs : List Char) :
    ∃ blanks rest, cs = firstLineChars cs ++ blanks ++ rest ∧
      (∀ c ∈ blanks, isBlank c = true ∧ c ≠ '\n') ∧ ∀ c ∈ rest.head?, c = '\n' := by
  obtain ⟨blanks, hblanks, hall⟩ := trimEnd_append (cs.takeWhile (· ≠ '\n'))
  refine ⟨blanks, cs.dropWhile (· ≠ '\n'), ?_, ?_, ?_⟩
  · rw [firstLineChars, ← hblanks, List.takeWhile_append_dropWhile]
  · intro c hc
    have hline : c ∈ cs.takeWhile (· ≠ '\n') := hblanks ▸ List.mem_append_right _ hc
    exact ⟨hall c hc, of_decide_eq_true (List.all_eq_true.mp List.all_takeWhile c hline)⟩
  · intro c hc
    have hhead := List.head?_dropWhile_not (· ≠ '\n') cs
    rw [Option.mem_def.mp hc] at hhead
    simpa using hhead

theorem toList_firstLine (text : String) : (firstLine text).toList = firstLineChars text.toList :=
  String.toList_ofList

/-- **The first line of a text is the longest of its openings.**

* A line is the first one if and only if it is an opening and no opening is longer.
* Between it and the first line feed, or the end of a text without one, there are blanks only.
* A carriage return that has something other than blanks behind it on the line is kept.
* The first line of a first line is this line. -/
theorem firstLine_is_longest_opening (text : String) :
    (∀ line : String, firstLine text = line ↔
      IsOpening line.toList text.toList ∧
        ∀ other, IsOpening other text.toList → other.length ≤ line.toList.length) ∧
    (∃ blanks rest, text.toList = (firstLine text).toList ++ blanks ++ rest ∧
      (∀ c ∈ blanks, isBlank c = true ∧ c ≠ '\n') ∧ ∀ c ∈ rest.head?, c = '\n') ∧
    (∀ before between behind c,
      text.toList = before ++ '\r' :: between ++ c :: behind →
        '\n' ∉ before ++ '\r' :: between → isBlank c = false →
          before ++ '\r' :: between ++ [c] <+: (firstLine text).toList) ∧
    firstLine (firstLine text) = firstLine text := by
  have hopening : IsOpening (firstLineChars text.toList) text.toList :=
    isOpening_firstLineChars text.toList
  refine ⟨fun line => ⟨?_, ?_⟩, ?_, ?_, ?_⟩
  · rintro rfl
    rw [toList_firstLine]
    exact ⟨hopening, fun other hother => hother.prefix_firstLineChars.length_le⟩
  · rintro ⟨hline, hlongest⟩
    rw [← String.toList_inj, toList_firstLine]
    exact (hline.eq_firstLineChars (hlongest _ hopening)).symm
  · rw [toList_firstLine]
    exact eq_firstLineChars_append text.toList
  · intro before between behind c htext hfeed hc
    rw [toList_firstLine, htext]
    exact (isOpening_append_singleton hfeed hc).prefix_firstLineChars
  · rw [← String.toList_inj, toList_firstLine, toList_firstLine]
    exact hopening.firstLineChars_eq

/-- The carriage return inside the line is kept, and the one at its end is not. -/
example : firstLine "a\rb \r\nc" = "a\rb" := by decide

/-! ## Lines -/

/-- The lines of a text. A line ends at a line feed or at a carriage return with one behind it, and
neither belongs to it. A line feed at the end of the text does not begin another line. -/
def lines : List Char → List (List Char)
  | [] => []
  | '\n' :: cs => [] :: lines cs
  | '\r' :: '\n' :: cs => [] :: lines cs
  | c :: cs =>
      let below := lines cs
      (c :: below.headD []) :: below.tail

/-- Up to the line feed there is the first line, and at most a carriage return behind it. -/
theorem takeWhile_eq_head_lines_append (cs : List Char) :
    ∃ returns, cs.takeWhile (· ≠ '\n') = (lines cs).headD [] ++ returns ∧
      ∀ c ∈ returns, isBlank c = true := by
  fun_induction lines cs with
  | case1 => exact ⟨[], rfl, by simp⟩
  | case2 cs ih => exact ⟨[], rfl, by simp⟩
  | case3 cs ih =>
      have hreturn : isBlank '\r' = true := rfl
      exact ⟨['\r'], rfl, by simpa using hreturn⟩
  | case4 c cs hfeed _ below ih =>
      obtain ⟨returns, hreturns, hblank⟩ := ih
      have hc : decide (c ≠ '\n') = true := decide_eq_true hfeed
      refine ⟨returns, ?_, hblank⟩
      rw [List.takeWhile_cons, if_pos hc, hreturns]
      rfl

/-- The first line of a text is the first of its lines without the blanks at the end. -/
theorem firstLine_eq_trimEnd_head_lines (text : String) :
    firstLine text = String.ofList (trimEnd ((lines text.toList).headD [])) := by
  obtain ⟨returns, hreturns, hblank⟩ := takeWhile_eq_head_lines_append text.toList
  rw [firstLine, firstLineChars, hreturns, trimEnd_append_blanks hblank]

/-! ## Cuts -/

theorem cut_eq_self_iff : cut cs limit = cs ↔ cs.length ≤ limit := by
  refine ⟨fun h => ?_, cut_of_length_le⟩
  have hlength : (cut cs limit).length = min cs.length limit := length_cut cs limit
  rw [h] at hlength
  omega

/-- **Of two limits the smaller one counts.** -/
theorem cut_cut (cs : List Char) (n m : Nat) : cut (cut cs n) m = cut cs (min n m) := by
  by_cases hshort : cs.length ≤ n
  · rw [cut_of_length_le hshort]
    by_cases hless : m ≤ n
    · rw [Nat.min_eq_right hless]
    · rw [cut_of_length_le (by omega), cut_of_length_le (by omega)]
  · have hlong : n < cs.length := Nat.lt_of_not_le hshort
    have hlength : (cut cs n).length = n := by
      rw [length_cut]
      omega
    by_cases hless : m < n
    · -- What the second cut keeps has been kept by the first one.
      have hkept : m - 3 ≤ (cs.take (n - 3)).length := by
        rw [List.length_take]
        omega
      calc cut (cut cs n) m
          = (cut cs n).take (m - 3) ++ dots (min m 3) := cut_of_lt_length (by omega)
        _ = (cs.take (n - 3)).take (m - 3) ++ dots (min m 3) := by
            rw [cut_of_lt_length hlong, List.take_append_of_le_length hkept]
        _ = cs.take (m - 3) ++ dots (min m 3) := by
            rw [List.take_take, Nat.min_eq_left (by omega)]
        _ = cut cs m := (cut_of_lt_length (by omega)).symm
        _ = cut cs (min n m) := by rw [Nat.min_eq_right (by omega)]
    · rw [cut_of_length_le (by omega), Nat.min_eq_left (by omega)]

theorem toList_ellipsis (text : String) (limit : Nat) :
    (ellipsis text limit).toList = cut text.toList limit :=
  String.toList_ofList

theorem length_ellipsis (text : String) (limit : Nat) :
    (ellipsis text limit).length = min text.length limit := by
  rw [← String.length_toList, toList_ellipsis, length_cut, String.length_toList]

/-- A cut text with room for more than dots. -/
theorem ellipsis_of_room {text : String} (hlong : limit < text.length) (hroom : 3 < limit) :
    ellipsis text limit = String.ofList (text.toList.take (limit - 3)) ++ "..." := by
  have hchars : limit < text.toList.length := by rwa [String.length_toList]
  rw [ellipsis, cut_of_lt_length hchars, Nat.min_eq_right (Nat.le_of_lt hroom),
    String.ofList_append]
  rfl

/-- A cut text with room for dots only. -/
theorem ellipsis_of_no_room {text : String} (hlong : limit < text.length) (hroom : limit ≤ 3) :
    ellipsis text limit = String.ofList (List.replicate limit '.') := by
  have hchars : limit < text.toList.length := by rwa [String.length_toList]
  rw [ellipsis, cut_of_lt_length hchars, Nat.min_eq_left hroom, Nat.sub_eq_zero_of_le hroom,
    List.take_zero, List.nil_append, dots]

/-- **What limits leave of a text.** The result keeps the limit. It is the text itself if and only
if the text keeps it; else it has as many characters as the limit allows, dots at the end, and dots
alone if there is room for no more than three. Of two limits the smaller one counts. -/
theorem ellipsis_told_by_limit (text : String) (n m : Nat) :
    (ellipsis text n).length ≤ n ∧
    (ellipsis text n = text ↔ text.length ≤ n) ∧
    (n < text.length →
      (ellipsis text n).length = n ∧
        (3 < n → ellipsis text n = String.ofList (text.toList.take (n - 3)) ++ "...") ∧
        (n ≤ 3 → ellipsis text n = String.ofList (List.replicate n '.'))) ∧
    ellipsis (ellipsis text n) m = ellipsis text (min n m) := by
  refine ⟨?_, ?_, fun hlong => ⟨?_, ellipsis_of_room hlong, ellipsis_of_no_room hlong⟩, ?_⟩
  · rw [length_ellipsis]
    exact Nat.min_le_right _ _
  · rw [← String.toList_inj, toList_ellipsis, cut_eq_self_iff, String.length_toList]
  · rw [length_ellipsis, Nat.min_eq_right (Nat.le_of_lt hlong)]
  · rw [← String.toList_inj, toList_ellipsis, toList_ellipsis, toList_ellipsis, cut_cut]

/-- Characters are counted, however many bytes they have. -/
example : ellipsis "接続が拒否され" 5 = "接続..." := by decide

/-! ## Bytes -/

/-- The characters of a text, each with the number of the byte at which it begins. -/
def charIndices (start : Nat) : List Char → List (Nat × Char)
  | [] => []
  | c :: cs => (start, c) :: charIndices (start + c.utf8Size) cs

/-- The byte at which the character with this number begins, or the end of a text that has none. -/
def byteOffset (text : String) (number : Nat) : Nat :=
  ((charIndices 0 text.toList)[number]?.map Prod.fst).getD text.utf8ByteSize

theorem utf8ByteSize_ofList_cons (c : Char) (cs : List Char) :
    (String.ofList (c :: cs)).utf8ByteSize = c.utf8Size + (String.ofList cs).utf8ByteSize := by
  rw [String.ofList_cons, String.utf8ByteSize_append, String.utf8ByteSize_singleton]

/-- A character begins where the characters in front of it end. -/
theorem getD_charIndices (start : Nat) (cs : List Char) (number : Nat) :
    ((charIndices start cs)[number]?.map Prod.fst).getD
        (start + (String.ofList cs).utf8ByteSize) =
      start + (String.ofList (cs.take number)).utf8ByteSize := by
  induction cs generalizing start number with
  | nil => rw [charIndices, List.take_nil, List.getElem?_nil, Option.map_none, Option.getD_none]
  | cons c cs ih =>
      cases number with
      | zero => rfl
      | succ number =>
          have hrest := ih (start + c.utf8Size) number
          rw [charIndices, List.getElem?_cons_succ, List.take_succ_cons, utf8ByteSize_ofList_cons,
            utf8ByteSize_ofList_cons, ← Nat.add_assoc, ← Nat.add_assoc, hrest]

theorem byteOffset_eq (text : String) (number : Nat) :
    byteOffset text number = (String.ofList (text.toList.take number)).utf8ByteSize := by
  have hoffset := getD_charIndices 0 text.toList number
  rwa [String.ofList_toList, Nat.zero_add, Nat.zero_add] at hoffset

/-- No character is divided there. -/
theorem isValid_byteOffset (text : String) (number : Nat) :
    String.Pos.Raw.IsValid text ⟨byteOffset text number⟩ :=
  String.Pos.Raw.isValid_iff_exists_take_toList.mpr ⟨number, byteOffset_eq text number⟩

/-- The bytes in front of a character are those of the characters in front of it. -/
theorem extract_byteOffset (text : String) (number : Nat) :
    text.toByteArray.extract 0 (byteOffset text number) =
      (String.ofList (text.toList.take number)).toByteArray := by
  have htext : text = String.ofList (text.toList.take number) ++
      String.ofList (text.toList.drop number) := by
    rw [← String.ofList_append, List.take_append_drop, String.ofList_toList]
  have hbytes := congrArg String.toByteArray htext
  rw [String.toByteArray_append] at hbytes
  rw [hbytes, ByteArray.extract_append_eq_left (byteOffset_eq text number)]

/-- **A cut in the bytes of a text is a cut between its characters.** -/
theorem toByteArray_ellipsis {text : String} (hlong : limit < text.length) (hroom : 3 < limit) :
    (ellipsis text limit).toByteArray =
      text.toByteArray.extract 0 (byteOffset text (limit - 3)) ++ "...".toByteArray := by
  rw [ellipsis_of_room hlong hroom, String.toByteArray_append, extract_byteOffset]

end Text

end Preflight
