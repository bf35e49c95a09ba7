import Preflight.Json.Decode

/-!
# Points in time

A point in time is a number of milliseconds since the beginning of 1970, which
may be negative, and the nanoseconds that passed since that millisecond began. The
calendar bounds it: the years from -262143 to 262142 are representable. Documents
hold whole milliseconds, so writing a point in time drops the rest.

The instants inside a leap second are not among them. A calendar can name one, as a
second with more than `10 ^ 9` nanoseconds, but no clock shows it and no number of
milliseconds in a document stands for it.
-/

namespace Preflight

/-- A point in time within the bounds of the calendar. -/
structure Timestamp where
  millis : Int
  /-- The nanoseconds since the millisecond began. -/
  nanos : Fin 1000000
  least_le : -8334601228800000 ≤ millis
  le_greatest : millis ≤ 8210266876799999
  deriving DecidableEq, Repr

namespace Timestamp

/-- The beginning of 1970. -/
def epoch : Timestamp := ⟨0, 0, by decide, by decide⟩

instance : Inhabited Timestamp := ⟨epoch⟩

/-- The beginning of a millisecond, if it is within the bounds. -/
def ofMillis? (millis : Int) : Option Timestamp :=
  if h : -8334601228800000 ≤ millis ∧ millis ≤ 8210266876799999 then
    some ⟨millis, 0, h.1, h.2⟩
  else none

/-- The beginning of the millisecond that holds a point in time. -/
def wholeMillis (t : Timestamp) : Timestamp := { t with nanos := 0 }

/-- The form in documents. -/
def toJson (t : Timestamp) : Json := Json.ofInt t.millis

/-- What a natural number of 64 bits stands for as a signed one. -/
def signedWord (n : Nat) : Int := 
  if n < 0x8000000000000000 then n else (n : Int) - 0x10000000000000000

/-- The point in time of a number as it is written. -/
def ofWritten (millis : Int) (written : JsonNumber) (stop : Spot) :
    Except DecodeError Timestamp :=
  match ofMillis? millis with
  | some t => .ok t
  | none => .error ⟨.refused ("value is not a legal timestamp: " ++ written.text), stop⟩

/-- Read a point in time. -/
def decode : Decoder Timestamp
  | .number (.ok (.natural n)) _ stop => ofWritten (signedWord n) (.natural n) stop
  | .number (.ok (.negative n)) _ stop => ofWritten (-n) (.negative n) stop
  | doc => .error (doc.mistyped "a unix timestamp in milliseconds")

theorem ofMillis?_wholeMillis (t : Timestamp) : ofMillis? t.millis = some t.wholeMillis := by
  simp [ofMillis?, wholeMillis, t.least_le, t.le_greatest]

end Timestamp

end Preflight
