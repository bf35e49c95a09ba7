/-!
# Finding and replacing

`contains`, `replaceAll` and `splitOnce` look for a fixed piece of text. They
scan from the left and never overlap two finds: `replaceAll` passes over the
characters of a find with a counter instead of cutting the list, which keeps
the recursion structural.

The piece looked for is never empty in this library; an empty one is found
everywhere by `contains` and nowhere by `replaceAll`.

## Main results

* `replaceAll_of_not_contains` — a text without the piece is left alone.
-/

namespace Preflight.Text

/-- Does `piece` occur in the text? -/
def contains (piece : List Char) : List Char → Bool
  | [] => piece.isEmpty
  | c :: rest => piece.isPrefixOf (c :: rest) || contains piece rest

/-- Replace the finds of `piece` by `mask`, passing over the first `skip` characters. -/
def replaceFrom (piece mask : List Char) : Nat → List Char → List Char
  | _, [] => []
  | skip + 1, _ :: rest => replaceFrom piece mask skip rest
  | 0, c :: rest =>
      if !piece.isEmpty && piece.isPrefixOf (c :: rest) then
        mask ++ replaceFrom piece mask (piece.length - 1) rest
      else
        c :: replaceFrom piece mask 0 rest

/-- Replace every find of `piece`, from the left and without overlap, by `mask`. -/
def replaceAll (piece mask cs : List Char) : List Char :=
  replaceFrom piece mask 0 cs

/-- The parts before and after the first find of `mark`. -/
def splitOnce (mark : List Char) : List Char → Option (List Char × List Char)
  | [] => if mark.isEmpty then some ([], []) else none
  | c :: rest =>
      if mark.isPrefixOf (c :: rest) then
        some ([], (c :: rest).drop mark.length)
      else
        (splitOnce mark rest).map fun (before, after) => (c :: before, after)

/-- Replace every occurrence of `piece` in `text` by `mask`. -/
def replaced (text piece mask : String) : String :=
  String.ofList (replaceAll piece.toList mask.toList text.toList)

/-- The pieces of a text between the occurrences of one character. -/
def splitAtChar (mark : Char) : List Char → List (List Char)
  | [] => [[]]
  | c :: rest =>
      if c = mark then
        [] :: splitAtChar mark rest
      else
        match splitAtChar mark rest with
        | [] => [[c]]
        | first :: others => (c :: first) :: others

/-- Write a list of texts with a separator between neighbours. -/
def joined (separator : String) : List String → String
  | [] => ""
  | [only] => only
  | first :: rest => first ++ separator ++ joined separator rest

theorem replaceFrom_of_not_contains {piece mask : List Char} :
    ∀ {cs : List Char}, contains piece cs = false → replaceFrom piece mask 0 cs = cs
  | [], _ => by simp [replaceFrom]
  | c :: rest, h => by
      simp only [contains, Bool.or_eq_false_iff] at h
      simp [replaceFrom, h.1, replaceFrom_of_not_contains h.2]

/-- A text in which the piece does not occur is left alone. -/
theorem replaceAll_of_not_contains {piece mask cs : List Char} (h : contains piece cs = false) :
    replaceAll piece mask cs = cs :=
  replaceFrom_of_not_contains h

end Preflight.Text
