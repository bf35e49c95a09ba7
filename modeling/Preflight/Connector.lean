import Preflight.Delivery

/-!
# Connectors

A connector says how to connect with one kind of service, which steps test a
connection, and how to close it. A connection is a value of type `κ`; the world
`ω` is what it is a connection to. The steps act on both.

`connectAndTest` connects, tests and closes again. The connection is closed
whatever the test says, and a failure to close is noted but changes nothing.
-/

namespace Preflight

/-- How to connect with, test and leave one kind of service. -/
structure Connector (ς κ ω : Type) where
  service : String
  connect : ς → Act ω (Except ConnectionFailure κ)
  steps : List (Step (κ × ω))
  close : κ → Act ω (Except CheckError Unit)

namespace Connector

variable {ς κ ω τ : Type}

/-- Run the steps on an open connection, which stays open. -/
def test (connector : Connector ς κ ω) (purpose : Purpose τ) (stamp : Timestamp) :
    Act ((κ × ω) × τ) (Except CheckError (Option Report)) :=
  match Runner.of? connector.steps with
  | .error fault => return .error (.invalidSteps fault.message)
  | .ok runner => testSteps runner connector.service purpose stamp

/-- Close a connection and go on with `outcome`. -/
def release {α : Type} (connector : Connector ς κ ω) (connection : κ) (outcome : α) : Act ω α := do
  match ← connector.close connection with
  | .ok () => return outcome
  | .error error =>
      Act.note ⟨.warn, .connection, "failed to close connection",
        [("error", .string error.message)]⟩
      return outcome

/-- Connect, test and close again. -/
def connectAndTest (connector : Connector ς κ ω) (settings : ς) (purpose : Purpose τ)
    (stamp : Timestamp) : Act (ω × τ) (Except CheckError (Option Report)) := do
  match ← Act.onFirst (connector.connect settings) with
  | .error failure => return .error (.connection failure)
  | .ok connection =>
      let (outcome, connection) ← Act.carrying connection (connector.test purpose stamp)
      Act.onFirst (connector.release connection outcome)

end Connector

end Preflight
