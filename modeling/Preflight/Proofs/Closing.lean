import Preflight.Proofs.Course

/-!
# Every connection is closed once

A connector that connects, tests and closes has one way through on which no
connection is there to close, the refusal by `connect`; on all others the
connection is closed last. To see this, the connector is watched like a run: a
list beside the world takes down which probes are called and which connections
are closed. `Connector.alike_watched` says that nothing else comes of it.

What the closing itself comes to is noted as an event and then forgotten, so the
answer is that of the test, for this way to close a connection and any other.

## Main results

* `Connector.onlyProbes_test` — a test calls probes and leaves its connection open.
* `Connector.connectAndTest_closes_once` — the way of a connection from connecting
  to closing.
-/

namespace Preflight

variable {ς κ ω τ ρ α : Type}

/-! ## Watched connectors -/

/-- What is done to a connection. -/
inductive Deed (κ : Type) where
  | probed (step : String)
  | closed (connection : κ)

/-- An act on a value and a world with something beside both, as an act on the
value and the world with this beside it. -/
def Act.regrouped (act : Act ((κ × ω) × ρ) α) : Act (κ × (ω × ρ)) α := fun (value, world, other) =>
  let done := act.run ((value, world), other)
  ⟨done.value, (done.world.1.1, done.world.1.2, done.world.2), done.events⟩

namespace Connector

variable (connector : Connector ς κ ω)

/-- The connector that writes down what is done to its connections. -/
def watched : Connector ς κ (ω × List (Deed κ)) where
  service := connector.service
  connect settings := Act.onFirst (connector.connect settings)
  steps := connector.steps.map fun step =>
    { name := step.name
      dependsOn := step.dependsOn
      limitMicros := step.limitMicros
      probe := (step.probe.logged fun _ => Deed.probed step.name).regrouped }
  close connection := (connector.close connection).logged fun _ => Deed.closed connection

theorem forall₂_alike_watched_steps :
    List.Forall₂ (Step.Alike fun (world : κ × ω) (watched : κ × (ω × List (Deed κ))) =>
      world.1 = watched.1 ∧ world.2 = watched.2.1) connector.steps connector.watched.steps := by
  unfold watched
  rw [List.forall₂_map_right_iff, List.forall₂_same]
  intro step _
  refine ⟨rfl, rfl, rfl, ?_⟩
  rintro ⟨connection, world⟩ ⟨_, _, deeds⟩ ⟨rfl, rfl⟩
  exact ⟨rfl, ⟨rfl, rfl⟩, rfl⟩

/-- To watch a connector changes nothing in what it does. -/
theorem alike_watched (settings : ς) (purpose : Purpose τ) (stamp : Timestamp) :
    Act.Alike (fun (world : ω × τ) (watched : (ω × List (Deed κ)) × τ) =>
        world.1 = watched.1.1 ∧ world.2 = watched.2)
      Eq (connector.connectAndTest settings purpose stamp)
      (connector.watched.connectAndTest settings purpose stamp) := by
  have hservice : connector.service = connector.watched.service := rfl
  have hconnect : Act.Alike (fun (world : ω) (watched : ω × List (Deed κ)) => world = watched.1) Eq
      (connector.connect settings) (connector.watched.connect settings) := by
    rintro world ⟨_, deeds⟩ rfl
    exact ⟨rfl, rfl, rfl⟩
  have hclose : ∀ connection, Act.Alike
      (fun (world : ω) (watched : ω × List (Deed κ)) => world = watched.1) Eq
      (connector.close connection) (connector.watched.close connection) := by
    rintro connection world ⟨_, deeds⟩ rfl
    exact ⟨rfl, rfl, rfl⟩
  exact Connector.alike_connectAndTest settings purpose stamp hservice hconnect
    connector.forall₂_alike_watched_steps hclose

/-- Nothing is done but to call probes. -/
def OnlyProbes (deeds : List (Deed κ)) : Prop :=
  ∀ deed ∈ deeds, ∃ step, deed = .probed step

/-- **A test leaves its connection open**: it does nothing to it but to call
probes. -/
theorem onlyProbes_test (purpose : Purpose τ) (stamp : Timestamp) (connection : κ) (world : ω)
    (records : τ) :
    OnlyProbes
      ((connector.watched.test purpose stamp).run ((connection, (world, [])), records)).world.1.2.2
      := by
  have hkeeps : ∀ step ∈ connector.watched.steps,
      Act.Keeps (fun watched : κ × (ω × List (Deed κ)) => OnlyProbes watched.2.2) step.probe := by
    intro step hstep
    obtain ⟨source, _, rfl⟩ := List.mem_map.mp hstep
    rintro ⟨connection, world, deeds⟩ hdeeds deed hdeed
    rcases List.mem_append.mp hdeed with hdeed | hdeed
    · exact hdeeds deed hdeed
    · exact ⟨source.name, List.mem_singleton.mp hdeed⟩
  apply Connector.keeps_test purpose stamp hkeeps
  intro deed hdeed
  cases hdeed

/-! ## The two ways through -/

section Ways

variable {connector} {settings : ς} (purpose : Purpose τ) (stamp : Timestamp) {world after : ω}
  (records : τ) {events : List Event}

/-- Whatever closing comes to, the outcome is handed on. -/
theorem run_release (connection : κ) (outcome : α) (world : ω) :
    ((connector.release connection outcome).run world).value = outcome ∧
      ((connector.release connection outcome).run world).world =
        ((connector.close connection).run world).world := by
  rw [release, Act.run_bind]
  cases ((connector.close connection).run world).value with
  | ok _ => exact ⟨rfl, rfl⟩
  | error error => exact ⟨rfl, rfl⟩

/-- Where no connection is made, the refusal is all there is. -/
theorem run_of_refused {failure : ConnectionFailure}
    (hconnect : (connector.connect settings).run world = ⟨.error failure, after, events⟩) :
    (connector.connectAndTest settings purpose stamp).run (world, records) =
      ⟨.error (.connection failure), (after, records), events⟩ := by
  have hfirst : (Act.onFirst (connector.connect settings)).run (world, records) =
      ⟨.error failure, (after, records), events⟩ := by
    rw [Act.run_onFirst, hconnect]
  rw [connectAndTest, Act.run_bind, hfirst]
  simp

/-- Where a connection is made, it is tested and then closed, and the answer is
that of the test. -/
theorem run_of_connected {connection : κ}
    (hconnect : (connector.connect settings).run world = ⟨.ok connection, after, events⟩) :
    let whole := (connector.connectAndTest settings purpose stamp).run (world, records)
    let test := (connector.test purpose stamp).run ((connection, after), records)
    whole.value = test.value ∧
      whole.world =
        (((connector.close test.world.1.1).run test.world.1.2).world, test.world.2) := by
  intro whole test
  have hfirst : (Act.onFirst (connector.connect settings)).run (world, records) =
      ⟨.ok connection, (after, records), events⟩ := by
    rw [Act.run_onFirst, hconnect]
  obtain ⟨hvalue, hworld⟩ := run_release test.world.1.1 test.value test.world.1.2
  constructor
  · simp only [whole, connectAndTest, Act.run_bind, hfirst]
    exact hvalue
  · simp only [whole, connectAndTest, Act.run_bind, hfirst]
    exact congrArg (fun world => (world, test.world.2)) hworld

end Ways

/-- **A connection is closed once, after the last probe.** The watched connector
answers as the connector does. If no connection is made, there is the refusal and
nothing else: the world is as `connect` left it, and the store as it was. If one
is made, a test of it calls probes alone, and all that follows is that the
connection is closed; the answer is that of the test, whatever it is and however
the closing ends. -/
theorem connectAndTest_closes_once (connector : Connector ς κ ω) (settings : ς)
    (purpose : Purpose τ) (stamp : Timestamp) (world : ω) (records : τ) :
    let whole := (connector.connectAndTest settings purpose stamp).run (world, records)
    let watched :=
      (connector.watched.connectAndTest settings purpose stamp).run ((world, []), records)
    (watched.value = whole.value ∧ watched.world.1.1 = whole.world.1 ∧
        watched.world.2 = whole.world.2) ∧
      (∀ connection world, OnlyProbes ((connector.watched.test purpose stamp).run
        ((connection, (world, [])), records)).world.1.2.2) ∧
      match (connector.connect settings).run world with
      | ⟨.error failure, after, events⟩ =>
          watched = ⟨.error (.connection failure), ((after, []), records), events⟩
      | ⟨.ok connection, after, _⟩ =>
          let test := (connector.watched.test purpose stamp).run
            ((connection, (after, [])), records)
          watched.world.1.2 = test.world.1.2.2 ++ [.closed test.world.1.1] ∧
            whole.value =
              ((connector.test purpose stamp).run ((connection, after), records)).value ∧
            ∀ close, (({ connector with close := close }.connectAndTest settings purpose
              stamp).run (world, records)).value = whole.value := by
  intro whole watched
  obtain ⟨hvalue, ⟨hworld, hrecords⟩, _⟩ :=
    connector.alike_watched settings purpose stamp (world, records) ((world, []), records)
      ⟨rfl, rfl⟩
  refine ⟨⟨hvalue.symm, hworld.symm, hrecords.symm⟩, fun connection world =>
    connector.onlyProbes_test purpose stamp connection world records, ?_⟩
  cases hconnect : (connector.connect settings).run world with
  | mk connected after events =>
      have hwatched : (connector.watched.connect settings).run (world, []) =
          ⟨connected, (after, []), events⟩ := by
        rw [Connector.watched, Act.run_onFirst, hconnect]
      cases connected with
      | error failure => exact run_of_refused purpose stamp records hwatched
      | ok connection =>
          have hanswer := (run_of_connected purpose stamp records hconnect).1
          refine ⟨?_, hanswer, ?_⟩
          · exact congrArg (fun world => world.1.2)
              (run_of_connected purpose stamp records hwatched).2
          · intro close
            let other : Connector ς κ ω := { connector with close := close }
            have hother : (other.connect settings).run world = ⟨.ok connection, after, events⟩ :=
              hconnect
            exact (run_of_connected purpose stamp records hother).1.trans hanswer.symm

end Connector

end Preflight
