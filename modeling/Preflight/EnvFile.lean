import Preflight.EnvFile.Line
import Preflight.EnvFile.Value

/-!
# Files of variables

A file of variables gives values to names, one logical line for each. The word
`export` may stand in front of a name. What the environment has already is left
as it is, and a value may refer to what was set before it. The first line that
makes no sense ends the file; the lines before it count.

## Main results

* `lookup_load_of_some` — loading a file never changes a variable that is set.
-/

namespace Preflight

/-- Variables and their values. -/
abbrev Environment := List (String × String)

namespace EnvFile

/-- What a logical line comes to. -/
inductive LineMeaning where
  /-- It is blank or a comment. -/
  | nothing
  | assignment (name value : String)
  | nonsense
  deriving DecidableEq, Repr

/-- A character of a name behind its first one. -/
def isNameChar (c : Char) : Bool := c.isAlphanum || c = '_' || c = '.'

/-- The name in front of a text, and what follows it and blanks. -/
def name? (cs : List Char) : Option (List Char × List Char) :=
  match cs with
  | [] => none
  | c :: _ =>
      if c.isAlpha || c = '_' then
        some (cs.takeWhile isNameChar, Text.trimStart (cs.dropWhile isNameChar))
      else none

/-- The name of an assignment, and what follows the equals sign. -/
def assigned? (cs : List Char) : Option (List Char × List Char) :=
  match name? cs with
  | none => none
  | some (name, '=' :: rest) => some (name, rest)
  | some (name, rest) =>
      if name = "export".toList then
        match name? rest with
        | some (name, '=' :: rest) => some (name, rest)
        | _ => none
      else none

/-- Is there nothing more on a line? -/
def isOver (cs : List Char) : Bool := cs.isEmpty || cs.head? = some '#'

/-- What a line comes to. -/
def meaning (lookup : Lookup) (line : List Char) : LineMeaning :=
  let line := Text.trim line
  if isOver line then .nothing
  else
    match assigned? line with
    | none => .nonsense
    | some (name, rest) =>
        let rest := Text.trimStart rest
        if isOver rest then .assignment (String.ofList name) ""
        else
          match value? lookup rest with
          | some value => .assignment (String.ofList name) value
          | none => .nonsense

/-- Give a value to a name that has none. -/
def define (environment : Environment) (name value : String) : Environment :=
  if (environment.lookup name).isSome then environment else environment ++ [(name, value)]

/-- Carry out lines one after the other. -/
def loadLines : Environment → List (List Char) → Environment
  | environment, [] => environment
  | environment, line :: rest =>
      match meaning (fun name => environment.lookup name) line with
      | .nothing => loadLines environment rest
      | .assignment name value => loadLines (define environment name value) rest
      | .nonsense => environment

/-- The text without a mark of its byte order. -/
def unmarked (cs : List Char) : List Char :=
  match cs with
  | '\uFEFF' :: rest => rest
  | _ => cs

/-- Load a file into an environment. -/
def load (environment : Environment) (text : String) : Environment :=
  loadLines environment (lines (unmarked text.toList))

theorem lookup_define_of_some {environment : Environment} {name value key old : String}
    (h : environment.lookup key = some old) :
    (define environment name value).lookup key = some old := by
  unfold define
  split
  · exact h
  · rw [List.lookup_append, h]
    rfl

theorem lookup_loadLines_of_some {environment : Environment} {key old : String}
    (h : environment.lookup key = some old) (rest : List (List Char)) :
    (loadLines environment rest).lookup key = some old := by
  induction rest generalizing environment with
  | nil => exact h
  | cons line rest ih =>
      unfold loadLines
      split
      · exact ih h
      · exact ih (lookup_define_of_some h)
      · exact h

/-- Loading a file never changes a variable that is set. -/
theorem lookup_load_of_some {environment : Environment} {key old : String}
    (h : environment.lookup key = some old) (text : String) :
    (load environment text).lookup key = some old :=
  lookup_loadLines_of_some h _

end EnvFile

end Preflight
