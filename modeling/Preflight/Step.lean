import Preflight.Act
import Preflight.Failure
import Preflight.Text.Duration

/-!
# Diagnostic steps

A step is a named probe of a connection. It may name an earlier step that it
depends on, and it may bound the time its probe takes. A probe is an act on the
world of the connection; what it reports is an `Attempt`: the time it took and
how it ended.

The bound is a number of microseconds, but time is told in whole milliseconds: a
bound that falls between two of them is over at the later one, and a probe that
ends exactly then has kept it. A run would not see a finer bound. What it sees are
the milliseconds around the bound, the later one as the end and the earlier one in
the message, and between any two of them there are bounds in whole microseconds.
-/

namespace Preflight

/-- One try of a probe. -/
structure Attempt where
  tookMs : Nat
  result : Except StepFailure Unit

/-- A named probe. -/
structure Step (σ : Type) where
  name : String
  /-- The step that has to succeed before this one is run. -/
  dependsOn : Option String := none
  /-- The bound on the time of the probe, in microseconds. -/
  limitMicros : Option Nat := none
  probe : Act σ Attempt

namespace Step

variable {σ : Type}

/-- The millisecond at which a bound is over. -/
def deadlineMs (limitMicros : Nat) : Nat := (limitMicros + 999) / 1000

/-- The failure of a probe that broke its bound. -/
def timeoutFailure (limitMicros : Nat) : StepFailure where
  kind := .timeout
  message := "step did not complete within " ++ Text.decimal (limitMicros / 1000) ++ "ms"

/-- An attempt as its bound lets it be: one that takes longer is cut off and has failed. -/
def bounded (limitMicros : Option Nat) (attempt : Attempt) : Attempt :=
  match limitMicros with
  | none => attempt
  | some limit =>
      if deadlineMs limit < attempt.tookMs then
        ⟨deadlineMs limit, .error (timeoutFailure limit)⟩
      else attempt

/-- The diagnostic form; the probe has none. -/
def diagnostic (step : Step σ) : String :=
  let limit := match step.limitMicros with
    | none => "None"
    | some micros => "Some(" ++ Text.durationText micros ++ ")"
  "DiagnosticStep \x7b name: " ++ Text.quoted step.name ++ ", depends_on: " ++
    Text.quotedOption step.dependsOn ++ ", timeout: " ++ limit ++ ", .. \x7d"

end Step

end Preflight
