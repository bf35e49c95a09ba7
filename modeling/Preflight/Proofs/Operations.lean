import Preflight.Proofs.Handover
import Preflight.Proofs.Plain

/-!
# Operations on a graph, one after another

A client makes use of a graph by many operations in any order: it connects, reads,
pings, tests, connects for the time of a test, and lets time pass. All of them are
made with the same settings and act on a `GraphWorld`, which holds the connections
made so far, the surroundings and the records of a store.

What goes into the store is seen by letting it write down what it records.
`alike_performAll_map` says that nothing else comes of it.

## Main results

* `GraphOperation.alike_performAll_map` — with stores that are alike, operations are
  alike.
-/

namespace Preflight

variable {τ τ' α : Type}

/-! ## Worlds with connections -/

/-- What a client has around it: its connections, the peer and the records of its store. -/
structure GraphWorld (τ : Type) where
  connections : List GraphConnection := []
  net : BoltNet
  records : τ

namespace GraphWorld

/-- An act on the surroundings. -/
def onNet (act : Act BoltNet α) : Act (GraphWorld τ) α := fun world =>
  let done := act.run world.net
  ⟨done.value, { world with net := done.world }, done.events⟩

/-- An act on the surroundings and the records. -/
def onOutside (act : Act (BoltNet × τ) α) : Act (GraphWorld τ) α := fun world =>
  let done := act.run (world.net, world.records)
  ⟨done.value, { world with net := done.world.1, records := done.world.2 }, done.events⟩

/-- An act on one of the connections, if it is there. -/
def onConnection (number : Nat) (act : Act ((GraphConnection × BoltNet) × τ) α) :
    Act (GraphWorld τ) (Option α) := fun world =>
  match world.connections[number]? with
  | none => ⟨none, world, []⟩
  | some connection =>
      let done := act.run ((connection, world.net), world.records)
      ⟨some done.value,
        { connections := world.connections.set number done.world.1.1
          net := done.world.1.2
          records := done.world.2 }, done.events⟩

section OnConnection

variable {number : Nat} (act : Act ((GraphConnection × BoltNet) × τ) α) {world : GraphWorld τ}

theorem run_onConnection_of_none (h : world.connections[number]? = none) :
    (onConnection number act).run world = ⟨none, world, []⟩ := by
  simp only [onConnection, Act.run, h]

theorem run_onConnection_of_some {connection : GraphConnection}
    (h : world.connections[number]? = some connection) :
    let done := act.run ((connection, world.net), world.records)
    (onConnection number act).run world =
      ⟨some done.value,
        ⟨world.connections.set number done.world.1.1, done.world.1.2, done.world.2⟩,
        done.events⟩ := by
  intro done
  simp only [done, onConnection, Act.run, h]

end OnConnection

/-- Keep a new connection. -/
def keep (connection : GraphConnection) : Act (GraphWorld τ) Unit :=
  Act.change fun world => ((), { world with connections := world.connections ++ [connection] })

/-- Let time pass. -/
def wait (ms : Nat) : Act (GraphWorld τ) Unit :=
  Act.change fun world => ((), { world with net.nowMs := world.net.nowMs + ms })

end GraphWorld

/-! ## Operations and answers -/

/-- What a client can do. -/
inductive GraphOperation (τ : Type) where
  | connect
  /-- Read on a connection; connections are numbered in the order in which they were made. -/
  | read (number : Nat) (statement : String)
  | ping (number : Nat)
  | test (number : Nat) (purpose : Purpose τ) (stamp : Timestamp)
  | connectAndTest (purpose : Purpose τ) (stamp : Timestamp)
  | wait (ms : Nat)

/-- What an operation is answered with. -/
inductive GraphAnswer where
  | connected (result : Except ConnectionFailure Unit)
  | counted (result : Except StepFailure Nat)
  | pinged (result : Except CheckError Unit)
  | tested (result : Except CheckError (Option Report))
  /-- There is no such connection, or there was nothing to find out. -/
  | nothing
  deriving DecidableEq

namespace GraphOperation

/-- Do one thing. -/
def perform (settings : GraphSettings) : GraphOperation τ → Act (GraphWorld τ) GraphAnswer
  | connect => do
      match ← GraphWorld.onNet (GraphConnection.connect settings) with
      | .error failure => return .connected (.error failure)
      | .ok connection =>
          GraphWorld.keep connection
          return .connected (.ok ())
  | read number statement => do
      let result ← GraphWorld.onConnection number (Act.onFirst (GraphConnection.read statement))
      return result.elim .nothing .counted
  | ping number => do
      let result ← GraphWorld.onConnection number (Act.onFirst GraphConnection.ping)
      return result.elim .nothing .pinged
  | test number purpose stamp => do
      let result ← GraphWorld.onConnection number (Amundsen.connector.test purpose stamp)
      return result.elim .nothing .tested
  | connectAndTest purpose stamp => do
      let result ← GraphWorld.onOutside
        (Amundsen.connector.connectAndTest settings purpose stamp)
      return .tested result
  | wait ms => do
      GraphWorld.wait ms
      return .nothing

/-- Do one thing after another. -/
def performAll (settings : GraphSettings) :
    List (GraphOperation τ) → Act (GraphWorld τ) (List GraphAnswer)
  | [] => return []
  | operation :: rest => do
      let answer ← operation.perform settings
      let later ← performAll settings rest
      return answer :: later

/-- The operation with another store. -/
def map (f : ReportStore τ → ReportStore τ') : GraphOperation τ → GraphOperation τ'
  | connect => .connect
  | read number statement => .read number statement
  | ping number => .ping number
  | test number purpose stamp => .test number (purpose.map f) stamp
  | connectAndTest purpose stamp => .connectAndTest (purpose.map f) stamp
  | wait ms => .wait ms

/-- The operation with a store that writes down what it records. -/
def logged (operation : GraphOperation τ) : GraphOperation (τ × List (Workflow × Report)) :=
  operation.map (·.logged Prod.mk)

end GraphOperation

/-! ## Alike stores -/

/-- Worlds that differ at most in their records, which are related. -/
structure GraphWorld.SameBut (R : τ → τ' → Prop) (world : GraphWorld τ) (world' : GraphWorld τ') :
    Prop where
  connections : world.connections = world'.connections
  net : world.net = world'.net
  records : R world.records world'.records

section AlikeStores

variable {R : τ → τ' → Prop}

namespace GraphWorld

theorem alike_onNet (act : Act BoltNet α) :
    Act.Alike (SameBut R) Eq (onNet act) (onNet act) := by
  rintro ⟨connections, net, records⟩ ⟨_, _, records'⟩ ⟨rfl, rfl, hrecords⟩
  exact ⟨rfl, ⟨rfl, rfl, hrecords⟩, rfl⟩

theorem alike_keep (connection : GraphConnection) :
    Act.Alike (SameBut R) Eq (keep connection) (keep connection) := by
  rintro ⟨connections, net, records⟩ ⟨_, _, records'⟩ ⟨rfl, rfl, hrecords⟩
  exact ⟨rfl, ⟨rfl, rfl, hrecords⟩, rfl⟩

theorem alike_wait (ms : Nat) : Act.Alike (SameBut R) Eq (wait ms) (wait ms) := by
  rintro ⟨connections, net, records⟩ ⟨_, _, records'⟩ ⟨rfl, rfl, hrecords⟩
  exact ⟨rfl, ⟨rfl, rfl, hrecords⟩, rfl⟩

theorem alike_onOutside {act : Act (BoltNet × τ) α} {act' : Act (BoltNet × τ') α}
    (h : Act.Alike (fun world world' => world.1 = world'.1 ∧ R world.2 world'.2) Eq act act') :
    Act.Alike (SameBut R) Eq (onOutside act) (onOutside act') := by
  rintro ⟨connections, net, records⟩ ⟨_, _, records'⟩ ⟨rfl, rfl, hrecords⟩
  obtain ⟨hvalue, ⟨hnet, hkept⟩, hevents⟩ := h (net, records) (net, records') ⟨rfl, hrecords⟩
  exact ⟨hvalue, ⟨rfl, hnet, hkept⟩, hevents⟩

theorem alike_onConnection (number : Nat) {act : Act ((GraphConnection × BoltNet) × τ) α}
    {act' : Act ((GraphConnection × BoltNet) × τ') α}
    (h : Act.Alike (fun world world' => world.1 = world'.1 ∧ R world.2 world'.2) Eq act act') :
    Act.Alike (SameBut R) Eq (onConnection number act) (onConnection number act') := by
  rintro ⟨connections, net, records⟩ ⟨_, _, records'⟩ ⟨rfl, rfl, hrecords⟩
  cases hthere : connections[number]? with
  | none =>
      rw [run_onConnection_of_none act hthere, run_onConnection_of_none act' hthere]
      exact ⟨rfl, ⟨rfl, rfl, hrecords⟩, rfl⟩
  | some connection =>
      rw [run_onConnection_of_some act hthere, run_onConnection_of_some act' hthere]
      obtain ⟨hvalue, ⟨hfirst, hkept⟩, hevents⟩ :=
        h ((connection, net), records) ((connection, net), records') ⟨rfl, hrecords⟩
      refine ⟨congrArg some hvalue, ⟨?_, ?_, hkept⟩, hevents⟩
      · exact congrArg (fun world => connections.set number world.1) hfirst
      · exact congrArg Prod.snd hfirst

end GraphWorld

theorem Act.alike_onFirst_self {σ : Type} (act : Act σ α) :
    Act.Alike (fun (world : σ × τ) (world' : σ × τ') => world.1 = world'.1 ∧ R world.2 world'.2) Eq
      (Act.onFirst act) (Act.onFirst act) := by
  rintro ⟨world, records⟩ ⟨_, records'⟩ ⟨rfl, hrecords⟩
  exact ⟨rfl, ⟨rfl, hrecords⟩, rfl⟩

variable {f : ReportStore τ → ReportStore τ'}
  (hrecord : ∀ store : ReportStore τ, ∀ target report,
    Act.Alike R Eq (store.record target report) ((f store).record target report))

include hrecord

theorem Amundsen.alike_test_map (purpose : Purpose τ) (stamp : Timestamp) :
    Act.Alike (fun world world' => world.1 = world'.1 ∧ R world.2 world'.2) Eq
      (connector.test purpose stamp) (connector.test (purpose.map f) stamp) := by
  rintro ⟨⟨connection, net⟩, records⟩ ⟨_, records'⟩ ⟨rfl, hrecords⟩
  rw [run_test connection net purpose, run_test connection net (purpose.map f),
    Purpose.policy_map]
  obtain ⟨hvalue, hkept, hevents⟩ := purpose.alike_deliver f hrecord (accessReport
    ((GraphConnection.read userQuery).run (connection, net)).value stamp) records records' hrecords
  refine ⟨hvalue, ⟨rfl, hkept⟩, ?_⟩
  dsimp only
  rw [hevents]

theorem Amundsen.alike_connectAndTest_map (settings : GraphSettings) (purpose : Purpose τ)
    (stamp : Timestamp) :
    Act.Alike (fun world world' => world.1 = world'.1 ∧ R world.2 world'.2) Eq
      (connector.connectAndTest settings purpose stamp)
      (connector.connectAndTest settings (purpose.map f) stamp) := by
  rintro ⟨net, records⟩ ⟨_, records'⟩ ⟨rfl, hrecords⟩
  cases hconnect : (GraphConnection.connect settings).run net with
  | mk connected after events =>
      cases connected with
      | error failure =>
          rw [run_connectAndTest_of_error settings purpose stamp records hconnect,
            run_connectAndTest_of_error settings (purpose.map f) stamp records' hconnect]
          exact ⟨rfl, ⟨rfl, hrecords⟩, rfl⟩
      | ok connection =>
          rw [run_connectAndTest_of_ok settings purpose stamp records hconnect,
            run_connectAndTest_of_ok settings (purpose.map f) stamp records' hconnect]
          obtain ⟨hvalue, ⟨hfirst, hkept⟩, hevents⟩ := alike_test_map hrecord purpose stamp
            ((connection, after), records) ((connection, after), records') ⟨rfl, hrecords⟩
          refine ⟨hvalue, ⟨congrArg Prod.snd hfirst, hkept⟩, ?_⟩
          rw [hevents, hfirst]

namespace GraphOperation

theorem alike_perform_map (settings : GraphSettings) (operation : GraphOperation τ) :
    Act.Alike (GraphWorld.SameBut R) Eq (operation.perform settings)
      ((operation.map f).perform settings) := by
  cases operation with
  | connect =>
      refine (GraphWorld.alike_onNet _).bind ?_
      rintro result _ rfl
      cases result with
      | error failure => exact Act.alike_pure rfl
      | ok connection =>
          exact (GraphWorld.alike_keep connection).bind fun _ _ _ => Act.alike_pure rfl
  | read number statement =>
      refine (GraphWorld.alike_onConnection number (Act.alike_onFirst_self _)).bind ?_
      rintro result _ rfl
      exact Act.alike_pure rfl
  | ping number =>
      refine (GraphWorld.alike_onConnection number (Act.alike_onFirst_self _)).bind ?_
      rintro result _ rfl
      exact Act.alike_pure rfl
  | test number purpose stamp =>
      refine (GraphWorld.alike_onConnection number
        (Amundsen.alike_test_map hrecord purpose stamp)).bind ?_
      rintro result _ rfl
      exact Act.alike_pure rfl
  | connectAndTest purpose stamp =>
      refine (GraphWorld.alike_onOutside
        (Amundsen.alike_connectAndTest_map hrecord settings purpose stamp)).bind ?_
      rintro result _ rfl
      exact Act.alike_pure rfl
  | wait ms => exact (GraphWorld.alike_wait ms).bind fun _ _ _ => Act.alike_pure rfl

/-- **Alike stores are all the same to a client.** -/
theorem alike_performAll_map (settings : GraphSettings) (operations : List (GraphOperation τ)) :
    Act.Alike (GraphWorld.SameBut R) Eq (performAll settings operations)
      (performAll settings (operations.map (map f))) := by
  induction operations with
  | nil => exact Act.alike_pure rfl
  | cons operation rest ih =>
      refine (alike_perform_map hrecord settings operation).bind ?_
      rintro answer _ rfl
      refine ih.bind ?_
      rintro later _ rfl
      exact Act.alike_pure rfl

end GraphOperation

end AlikeStores

end Preflight
