import Preflight.Log
import Preflight.Text.Alphanumeric
import Preflight.Text.Blank
import Preflight.Text.Search

/-!
# Filters of events

A filter is a list of directives, each of which sets the level of the events it
is for. A directive may name a target, which stands for all targets that begin
with it, and fields that an event has to have. The most telling directive for an
event decides: the one with the longest target, then the one with the most
fields, then the last one. An event that no directive is for does not pass.

A directive may also be for the events inside of a named span. There are no spans
here, so it never matters for an event; nor does one that names the value of a
field.

A text of directives is divided by commas. A directive that cannot be read is
left out with a complaint. When none is left, errors pass.
-/

namespace Preflight

/-- A field that a directive names. -/
structure LogField where
  name : String
  hasValue : Bool
  deriving DecidableEq, Repr

/-- One rule of a filter. -/
structure LogDirective where
  target : Option String := none
  span : Option String := none
  fields : List LogField := []
  /-- The least grave level that passes; none passes if there is no level. -/
  level : Option LogLevel
  deriving DecidableEq, Repr

/-- Why a text is no directive. -/
inductive DirectiveFault where
  | badForm
  | badLevel
  deriving DecidableEq, Repr

/-- The sentence for readers. -/
def DirectiveFault.message : DirectiveFault → String
  | badForm => "invalid filter directive"
  | badLevel =>
      "error parsing level filter: expected one of \"off\", \"error\", \"warn\", \"info\", " ++
        "\"debug\", \"trace\", or a number 0-5"

namespace LogDirective

/-! ## Reading -/

/-- The levels by their names and numbers; to be off is to have none. -/
def levelNames : List (String × Option LogLevel) :=
  [("off", none), ("error", some .error), ("warn", some .warn), ("info", some .info),
   ("debug", some .debug), ("trace", some .trace)]

/-- The number that a text stands for, a plus sign apart. -/
def number? (cs : List Char) : Option Nat :=
  Text.natOfDigits? (match cs with | '+' :: rest => rest | _ => cs)

/-- The level that a text stands for. -/
def level? (cs : List Char) : Option (Option LogLevel) :=
  match number? cs with
  | some n => (levelNames[n]?).map Prod.snd
  | none => levelNames.lookup (String.ofList (cs.map Char.toLower))

/-- The level behind an equals sign; every level passes if nothing stands there. -/
def givenLevel (cs : List Char) : Except DirectiveFault (Option LogLevel) :=
  if cs.isEmpty then .ok (some .trace)
  else
    match level? cs with
    | some level => .ok level
    | none => .error .badLevel

/-- A directive of one word, which is a level or else a target. -/
def ofWord (cs : List Char) : LogDirective :=
  match level? cs with
  | some level => { level }
  | none => { target := some (String.ofList cs), level := some .trace }

/-- A field between braces. -/
def field (cs : List Char) : LogField where
  name := String.ofList (cs.takeWhile (· ≠ '='))
  hasValue := cs.contains '='

/-- The part between brackets: the name of a span, the fields, and what follows. -/
def spanPart (cs : List Char) :
    Except DirectiveFault (Option String × List LogField × List Char) :=
  let name := cs.takeWhile fun c => c ≠ ']' && c ≠ '\x7b'
  match cs.dropWhile fun c => c ≠ ']' && c ≠ '\x7b' with
  | [] => .error .badForm
  | ']' :: rest => .ok (some (String.ofList name), [], rest)
  | _ :: rest =>
      let inner := rest.takeWhile (· ≠ '\x7d')
      match rest.dropWhile (· ≠ '\x7d') with
      | _ :: ']' :: rest =>
          if inner.isEmpty then .error .badForm
          else .ok (if name.isEmpty then none else some (String.ofList name), [field inner], rest)
      | _ => .error .badForm

/-- A directive from its brackets on. -/
def ofBrackets (target : Option String) (cs : List Char) : Except DirectiveFault LogDirective := do
  let (span, fields, rest) ← spanPart cs
  match rest with
  | [] => return { target, span, fields, level := some .trace }
  | '=' :: rest => return { target, span, fields, level := ← givenLevel rest }
  | _ => throw .badForm

/-- May a target begin with a character? -/
def isTargetStart (c : Char) : Bool :=
  Text.isAlphanumeric c || c = '-' || c = ':' || c = '_'

/-- A directive. The place of its equals sign is counted without the blanks in front, but its parts
are taken with them, so a directive that gives a level may not have any. -/
def parse (whole : List Char) : Except DirectiveFault LogDirective :=
  let cs := Text.trim whole
  match cs with
  | [] => .error .badForm
  | '[' :: rest => ofBrackets none rest
  | c :: _ =>
      if isTargetStart c then
        let count := (cs.takeWhile fun c => c ≠ '=' && c ≠ '[').length
        let target := String.ofList (whole.take count)
        match cs.drop count with
        | [] => .ok (ofWord whole)
        | '=' :: _ =>
            (givenLevel (whole.drop (count + 1))).map fun level => { target := some target, level }
        | _ :: rest => ofBrackets (some target) rest
      else .error .badForm

/-! ## Meaning -/

/-- Can the directive be for an event? -/
def isForEvents (directive : LogDirective) : Bool :=
  directive.span.isNone && directive.fields.all fun f => !f.hasValue

/-- Is the directive for an event? -/
def isFor (directive : LogDirective) (event : Event) : Bool :=
  directive.isForEvents &&
    directive.target.all (fun t => t.toList.isPrefixOf event.source.target.toList) &&
    directive.fields.all fun f => f.name = "message" || event.fields.any (·.1 = f.name)

/-- How telling a directive is. -/
def weight (directive : LogDirective) : Nat × Nat :=
  (match directive.target with | none => 0 | some t => t.utf8ByteSize + 1,
    directive.fields.length)

/-- The more telling of two directives, of equal ones the second. -/
def heavier (first second : LogDirective) : LogDirective :=
  if second.weight.1 < first.weight.1 ∨
      (second.weight.1 = first.weight.1 ∧ second.weight.2 < first.weight.2)
  then first else second

/-- Does a level pass? -/
def admits (directive : LogDirective) (level : LogLevel) : Bool :=
  match directive.level with
  | none => false
  | some most => level.rank ≤ most.rank

end LogDirective

/-- A filter of events. -/
abbrev LogFilter := List LogDirective

namespace LogFilter

/-- The most telling directive for an event. -/
def decisive? (filter : LogFilter) (event : Event) : Option LogDirective :=
  (filter.filter (·.isFor event)).foldl
    (fun best directive => some ((best.map (·.heavier directive)).getD directive)) none

/-- Does an event pass? -/
def admits (filter : LogFilter) (event : Event) : Bool :=
  match filter.decisive? event with
  | none => false
  | some directive => directive.admits event.level

/-- A directive that was left out, and why. -/
structure Complaint where
  text : String
  fault : DirectiveFault
  deriving DecidableEq, Repr

/-- The line for readers. -/
def Complaint.message (complaint : Complaint) : String :=
  "ignoring `" ++ complaint.text ++ "`: " ++ complaint.fault.message

/-- The filter that lets errors pass. -/
def errorsOnly : LogFilter := [{ level := some .error }]

/-- Sort directives from texts that are none. -/
def readAll : List (List Char) → LogFilter × List Complaint
  | [] => ([], [])
  | piece :: rest =>
      let (filter, complaints) := readAll rest
      match LogDirective.parse piece with
      | .ok directive => (directive :: filter, complaints)
      | .error fault => (filter, ⟨String.ofList piece, fault⟩ :: complaints)

/-- The filter of a text, and what is wrong with the text. -/
def ofText (text : String) : LogFilter × List Complaint :=
  let (filter, complaints) :=
    readAll ((Text.splitAtChar ',' text.toList).filter (!·.isEmpty))
  (if filter.isEmpty then errorsOnly else filter, complaints)

end LogFilter

end Preflight
