import Preflight.Graph

/-!
# How a connection is used

A reading and a ping do the same: the session is refreshed, and there is one talk
on it. They differ in the talk and in the words that they have for what goes wrong.
`Uses` is what they have in common, and whatever is said about sessions and their
age is said about it once.

The lemmas before it follow a session to its origin: to refresh an expired session
is to open one, to open a session is to open a pool, and to open a pool is to
verify an empty one.

## Main results

* `GraphSettings.run_openPool`, `GraphConnection.refresh_of_expired` — where sessions
  come from.
* `GraphConnection.uses_read`, `GraphConnection.uses_ping` — the two uses.
-/

namespace Preflight

variable {α β ε ε' : Type}

theorem exists_of_map_eq_ok {result : Except ε α} {f : α → β} {b : β}
    (h : result.map f = .ok b) : ∃ a, result = .ok a ∧ f a = b := by
  cases result with
  | error e => cases h
  | ok a => exact ⟨a, rfl, Except.ok.inj h⟩

theorem eq_ok_of_mapError_eq_ok {result : Except ε α} {f : ε → ε'} {a : α}
    (h : result.mapError f = .ok a) : result = .ok a := by
  cases result with
  | error e => cases h
  | ok b => exact congrArg Except.ok (Except.ok.inj h)

/-! ## Sessions -/

namespace GraphSettings

variable {settings : GraphSettings} {net : BoltNet}

/-- Once the endpoint is known, to open a pool is to verify an empty one. -/
theorem run_openPool {endpoint : BoltEndpoint} (h : settings.endpoint net.files = .ok endpoint) :
    let verified := BoltPool.verify.run.run
      (⟨endpoint, settings.username, settings.password, none⟩, net)
    (settings.openPool.run net).value =
        (verified.value.mapError settings.failure).map (fun _ => verified.world.1) ∧
      (settings.openPool.run net).world = verified.world.2 := by
  intro verified
  have hwithin : (Act.within (⟨endpoint, settings.username, settings.password, none⟩ : BoltPool)
      BoltPool.verify.run).run net =
        ⟨(verified.value, verified.world.1), verified.world.2, verified.events⟩ := rfl
  unfold openPool
  rw [Act.run_bind, Act.run_look]
  dsimp only
  rw [h]
  dsimp only
  rw [Act.run_bind, hwithin]
  refine ⟨?_, rfl⟩
  cases verified.value with
  | error fault => rfl
  | ok _ => rfl

theorem run_openPool_of_error {failure : ConnectionFailure}
    (h : settings.endpoint net.files = .error failure) :
    settings.openPool.run net = ⟨.error failure, net, []⟩ := by
  unfold openPool
  rw [Act.run_bind, Act.run_look]
  dsimp only
  rw [h]
  rfl

end GraphSettings

namespace GraphConnection

/-- To open a session is to open a pool, and a session is as old as its pool. -/
theorem run_openSession (settings : GraphSettings) (net : BoltNet) :
    let opening := settings.openPool.run net
    ((openSession settings).run net).value =
        opening.value.map (fun pool => ⟨pool, opening.world.nowMs⟩) ∧
      ((openSession settings).run net).world = opening.world := by
  unfold openSession
  rw [Act.run_bind]
  generalize settings.openPool.run net = opening
  obtain ⟨result, after, events⟩ := opening
  cases result with
  | error failure => exact ⟨rfl, rfl⟩
  | ok pool => exact ⟨rfl, rfl⟩

/-- To connect is to open a session. -/
theorem connect_spec (settings : GraphSettings) (net : BoltNet) :
    let opening := (openSession settings).run net
    ((connect settings).run net).value = opening.value.map (fun session => ⟨settings, session⟩) ∧
      ((connect settings).run net).world = opening.world := by
  unfold connect
  rw [Act.run_bind, Act.run_note, Act.run_bind]
  dsimp only
  generalize (openSession settings).run net = opening
  obtain ⟨result, after, events⟩ := opening
  cases result with
  | error failure => exact ⟨rfl, rfl⟩
  | ok session => exact ⟨rfl, rfl⟩

section Refreshing

variable {connection : GraphConnection} {net : BoltNet}

theorem run_refresh_of_young (h : connection.isExpired net.nowMs = false) :
    refresh.run (connection, net) = ⟨.ok (), (connection, net), []⟩ := by
  unfold refresh
  rw [Act.run_bind, Act.run_look]
  dsimp only
  rw [h]
  rfl

/-- An expired session is given up for a new one, if there is one. -/
theorem refresh_of_expired (h : connection.isExpired net.nowMs = true) :
    let opening := (openSession connection.settings).run net
    (refresh.run (connection, net)).value = opening.value.map (fun _ => ()) ∧
      (refresh.run (connection, net)).world =
        (match opening.value with
          | .ok session => { connection with session }
          | .error _ => connection, opening.world) := by
  unfold refresh
  rw [Act.run_bind, Act.run_look]
  dsimp only
  have hopening : (Act.onSecond (openSession connection.settings)).run (connection, net) =
      ⟨((openSession connection.settings).run net).value,
        (connection, ((openSession connection.settings).run net).world),
        ((openSession connection.settings).run net).events⟩ := rfl
  rw [h, if_pos rfl, Act.run_bind, Act.run_note, Act.run_bind, hopening]
  dsimp only
  generalize (openSession connection.settings).run net = opening
  obtain ⟨result, after, events⟩ := opening
  cases result with
  | error failure => exact ⟨rfl, rfl⟩
  | ok session => exact ⟨rfl, rfl⟩

end Refreshing

/-! ## Uses -/

/-- A use of a connection: the session is refreshed, and then there is one talk on it. The use
has its own words for a session that cannot be opened and for a talk that fails. -/
structure Uses (act : Act (GraphConnection × BoltNet) (Except ε α))
    (connection : GraphConnection) (net : BoltNet) (wanted : Talk α)
    (refused : ConnectionFailure → ε) (failed : BoltFault → ε) : Prop where
  of_refresh_error : ∀ failure, (refresh.run (connection, net)).value = .error failure →
    (act.run (connection, net)).value = .error (refused failure) ∧
      (act.run (connection, net)).world = (refresh.run (connection, net)).world
  of_refresh_ok : (refresh.run (connection, net)).value = .ok () →
    let talking := (talk wanted).run (refresh.run (connection, net)).world
    (act.run (connection, net)).value = talking.value.mapError failed ∧
      (act.run (connection, net)).world = talking.world

theorem uses_read (statement : String) (connection : GraphConnection) (net : BoltNet) :
    Uses (read statement) connection net (BoltPool.rowCount statement)
      (fun failure => ⟨failure.kind, failure.cause, none⟩)
      (stepFailure connection.settings) := by
  unfold read
  constructor
  · intro failure h
    rw [Act.run_bind, Act.run_look, Act.run_bind]
    generalize refresh.run (connection, net) = refreshed at h ⊢
    obtain ⟨result, after, events⟩ := refreshed
    obtain rfl : result = .error failure := h
    exact ⟨rfl, rfl⟩
  · intro h
    rw [Act.run_bind, Act.run_look, Act.run_bind]
    generalize refresh.run (connection, net) = refreshed at h ⊢
    obtain ⟨result, after, events⟩ := refreshed
    obtain rfl : result = .ok () := h
    dsimp only
    rw [Act.run_bind]
    generalize (talk (BoltPool.rowCount statement)).run after = talking
    obtain ⟨result, after, events⟩ := talking
    cases result with
    | error fault => exact ⟨rfl, rfl⟩
    | ok rows => exact ⟨rfl, rfl⟩

theorem uses_ping (connection : GraphConnection) (net : BoltNet) :
    Uses ping connection net BoltPool.verify
      (fun failure => .connection (.of connection.settings failure.kind failure.cause))
      (fun fault => .connection (connection.settings.failure fault)) := by
  unfold ping
  constructor
  · intro failure h
    rw [Act.run_bind, Act.run_look, Act.run_bind]
    generalize refresh.run (connection, net) = refreshed at h ⊢
    obtain ⟨result, after, events⟩ := refreshed
    obtain rfl : result = .error failure := h
    exact ⟨rfl, rfl⟩
  · intro h
    rw [Act.run_bind, Act.run_look, Act.run_bind]
    generalize refresh.run (connection, net) = refreshed at h ⊢
    obtain ⟨result, after, events⟩ := refreshed
    obtain rfl : result = .ok () := h
    exact ⟨rfl, rfl⟩

end GraphConnection

end Preflight
