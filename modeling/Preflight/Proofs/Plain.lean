import Preflight.Amundsen.Connector
import Preflight.Proofs.Closing

/-!
# Operations before their texts are scrubbed

What is wrong with a connection is found out in one place and put into words in
another: settings, transport and peer give a text, and the text is scrubbed when
the operation answers. Here the two are told apart. A *plain* operation is one
that stops before its texts are scrubbed; each operation is its plain one with
the errors shown (`Act.showing`). What can be found in the texts of an operation
is thus a question about `scrub`, and what an operation depends on is a question
about the plain one.

A test of an Amundsen catalog has one step, which is one reading, so it comes to
that reading and the delivery of the report on its answer.

## Main results

* `GraphSettings.openPool_eq`, `GraphConnection.connect_eq`, `GraphConnection.run_read`,
  `GraphConnection.run_ping` — the operations are their plain ones, shown.
* `Amundsen.run_test`, `Amundsen.run_connectAndTest_of_ok` — what a test comes to.
-/

namespace Preflight

variable {ω τ α ε ε' : Type}

/-- The act with its errors shown in another way. -/
def Act.showing (f : ε → ε') (act : Act ω (Except ε α)) : Act ω (Except ε' α) := fun world =>
  let done := act.run world
  ⟨done.value.mapError f, done.world, done.events⟩

/-- What follows an act goes on where the act ended. -/
theorem Act.run_bind_of_run_eq {β : Type} {act : Act ω α} {world after : ω} {value : α}
    {events : List Event} (h : act.run world = ⟨value, after, events⟩) (next : α → Act ω β) :
    (act >>= next).run world =
      ⟨((next value).run after).value, ((next value).run after).world,
        events ++ ((next value).run after).events⟩ := by
  rw [run_bind, h]

@[simp] theorem Act.run_showing (f : ε → ε') (act : Act ω (Except ε α)) (world : ω) :
    (act.showing f).run world =
      ⟨(act.run world).value.mapError f, (act.run world).world, (act.run world).events⟩ := rfl

theorem Act.onSecond_showing (f : ε → ε') (act : Act ω (Except ε α)) :
    (Act.onSecond (act.showing f) : Act (τ × ω) (Except ε' α)) = (Act.onSecond act).showing f := rfl

/-! ## Plain operations -/

/-- Why no session could be opened, as a text that is not scrubbed. -/
structure PlainCause where
  kind : FailureKind
  text : String

/-- The failure to connect that a cause is. -/
def PlainCause.shown (settings : GraphSettings) (cause : PlainCause) : ConnectionFailure :=
  .of settings cause.kind cause.text

namespace GraphSettings

variable (settings : GraphSettings)

/-- The cause that a fault is. -/
def plainCause (fault : BoltFault) : PlainCause := ⟨fault.kind, settings.causeText fault⟩

/-- The endpoint that the settings name, or what is wrong with them. -/
def plainEndpoint (files : Files) : Except PlainCause BoltEndpoint :=
  match settings.uri with
  | .error fault => .error ⟨.invalidConfig, fault.message⟩
  | .ok uri =>
      if settings.hasCertificate files then
        (BoltEndpoint.ofUri uri).mapError settings.plainCause
      else
        .error ⟨.invalidConfig,
          "caCertificate '" ++ settings.certificateFile.getD "" ++ "' is not a readable file"⟩

theorem endpoint_eq (files : Files) :
    settings.endpoint files = (settings.plainEndpoint files).mapError (·.shown settings) := by
  unfold endpoint plainEndpoint
  cases settings.uri with
  | error fault => rfl
  | ok uri =>
      dsimp only
      split
      · cases BoltEndpoint.ofUri uri with
        | error fault => rfl
        | ok endpoint => rfl
      · rfl

/-- Open a pool and show that it works. -/
def plainPool : Act BoltNet (Except PlainCause BoltPool) := do
  let net ← Act.look
  match settings.plainEndpoint net.files with
  | .error cause => return .error cause
  | .ok endpoint =>
      let pool : BoltPool := ⟨endpoint, settings.username, settings.password, none⟩
      let (result, pool) ← Act.within pool BoltPool.verify.run
      return match result with
        | .ok () => .ok pool
        | .error fault => .error (settings.plainCause fault)

theorem openPool_eq : settings.openPool = settings.plainPool.showing (·.shown settings) := by
  funext net
  show settings.openPool.run net = (settings.plainPool.showing _).run net
  unfold openPool plainPool
  simp only [Act.run_showing, Act.run_bind, Act.run_look, endpoint_eq]
  cases settings.plainEndpoint net.files with
  | error cause => rfl
  | ok endpoint =>
      dsimp only [Except.mapError]
      simp only [Act.run_bind]
      generalize (Act.within _ BoltPool.verify.run).run net = done
      obtain ⟨⟨result, pool⟩, after, events⟩ := done
      cases result with
      | error fault => rfl
      | ok _ => rfl

end GraphSettings

/-- Why an operation on a session failed, before anything is scrubbed. -/
inductive PlainFault where
  /-- The session was too old, and no new one could be opened. -/
  | opening (cause : PlainCause)
  | talk (fault : BoltFault)

namespace PlainFault

variable (settings : GraphSettings)

/-- The failure of a statement that a fault is. -/
def stepFailure : PlainFault → StepFailure
  | opening cause => ⟨cause.kind, (cause.shown settings).cause, none⟩
  | talk fault => GraphConnection.stepFailure settings fault

/-- The failure to reach the peer that a fault is. -/
def connectionFailure : PlainFault → ConnectionFailure
  | opening cause => .of settings cause.kind (cause.shown settings).cause
  | talk fault => settings.failure fault

end PlainFault

namespace GraphConnection

/-- Open a session. -/
def plainSession (settings : GraphSettings) : Act BoltNet (Except PlainCause GraphSession) := do
  match ← settings.plainPool with
  | .error cause => return .error cause
  | .ok pool =>
      let net ← Act.look
      return .ok ⟨pool, net.nowMs⟩

/-- Connect with a graph. -/
def plainConnect (settings : GraphSettings) :
    Act BoltNet (Except PlainCause GraphConnection) := do
  Act.note (event .info "opening neo4j connection" [("config", .string settings.redacted)])
  match ← plainSession settings with
  | .error cause => return .error cause
  | .ok session =>
      Act.note (hostEvent settings "neo4j connection verified")
      return .ok ⟨settings, session⟩

/-- Give up an expired session for a new one. -/
def plainRefresh : Act (GraphConnection × BoltNet) (Except PlainCause Unit) := do
  let (connection, net) ← Act.look
  if connection.isExpired net.nowMs then
    Act.note (hostEvent connection.settings "neo4j session exceeded max lifetime, re-opening")
    match ← Act.onSecond (plainSession connection.settings) with
    | .error cause => return .error cause
    | .ok session => Act.change fun (connection, net) => (.ok (), { connection with session }, net)
  else return .ok ()

/-- Run a read-only statement and count its rows. -/
def plainRead (statement : String) :
    Act (GraphConnection × BoltNet) (Except PlainFault Nat) := do
  match ← plainRefresh with
  | .error cause => return .error (.opening cause)
  | .ok () =>
      match ← talk (BoltPool.rowCount statement) with
      | .error fault => return .error (.talk fault)
      | .ok rows =>
          Act.note (event .debug "neo4j query completed" [("rows", .ofNat rows)])
          return .ok rows

/-- Show that a connection still works. -/
def plainPing : Act (GraphConnection × BoltNet) (Except PlainFault Unit) := do
  match ← plainRefresh with
  | .error cause => return .error (.opening cause)
  | .ok () => return (← talk BoltPool.verify).mapError .talk

theorem openSession_eq (settings : GraphSettings) :
    openSession settings = (plainSession settings).showing (·.shown settings) := by
  funext net
  show (openSession settings).run net = ((plainSession settings).showing _).run net
  unfold openSession plainSession
  simp only [Act.run_showing, Act.run_bind, settings.openPool_eq]
  cases (settings.plainPool.run net).value with
  | error cause => rfl
  | ok pool => rfl

/-- **To connect is to connect plainly**, with the failure shown. -/
theorem connect_eq (settings : GraphSettings) :
    connect settings = (plainConnect settings).showing (·.shown settings) := by
  funext net
  show (connect settings).run net = ((plainConnect settings).showing _).run net
  unfold connect plainConnect
  simp only [Act.run_showing, Act.run_bind, Act.run_note, openSession_eq]
  cases ((plainSession settings).run net).value with
  | error cause => rfl
  | ok session => rfl

theorem run_connect {settings : GraphSettings} {net after : BoltNet}
    {result : Except PlainCause GraphConnection} {events : List Event}
    (h : (plainConnect settings).run net = ⟨result, after, events⟩) :
    (connect settings).run net = ⟨result.mapError (·.shown settings), after, events⟩ := by
  rw [connect_eq, Act.run_showing, h]

section OnConnection

variable (connection : GraphConnection) (net : BoltNet)

theorem run_refresh :
    refresh.run (connection, net) =
      (plainRefresh.showing (·.shown connection.settings)).run (connection, net) := by
  unfold refresh plainRefresh
  simp only [Act.run_showing, Act.run_bind, Act.run_look]
  by_cases hexpired : connection.isExpired net.nowMs
  · simp only [hexpired, if_true, Act.run_bind, Act.run_note, openSession_eq,
      Act.onSecond_showing, Act.run_showing]
    cases ((Act.onSecond (plainSession connection.settings)).run (connection, net)).value with
    | error cause => rfl
    | ok session => rfl
  · simp only [hexpired]
    rfl

/-- **To read is to read plainly**, with the failure shown. -/
theorem run_read (statement : String) :
    (read statement).run (connection, net) =
      ((plainRead statement).showing (·.stepFailure connection.settings)).run
        (connection, net) := by
  unfold read plainRead
  simp only [Act.run_showing, Act.run_bind, Act.run_look, run_refresh]
  cases (plainRefresh.run (connection, net)).value with
  | error cause => rfl
  | ok _ =>
      simp only [Except.mapError, Act.run_bind]
      cases ((talk (BoltPool.rowCount statement)).run
          (plainRefresh.run (connection, net)).world).value with
      | error fault => rfl
      | ok rows => rfl

/-- **To ping is to ping plainly**, with the failure shown. -/
theorem run_ping :
    ping.run (connection, net) =
      (plainPing.showing fun fault =>
        CheckError.connection (fault.connectionFailure connection.settings)).run
          (connection, net) := by
  unfold ping plainPing
  simp only [Act.run_showing, Act.run_bind, Act.run_look, run_refresh]
  cases (plainRefresh.run (connection, net)).value with
  | error cause => rfl
  | ok _ =>
      simp only [Except.mapError, Act.run_bind]
      cases ((talk BoltPool.verify).run (plainRefresh.run (connection, net)).world).value with
      | error fault => rfl
      | ok _ => rfl

theorem settings_plainRefresh :
    (plainRefresh.run (connection, net)).world.1.settings = connection.settings := by
  unfold plainRefresh
  rw [Act.run_bind, Act.run_look]
  by_cases hexpired : connection.isExpired net.nowMs
  · simp only [hexpired, if_true, Act.run_bind, Act.run_note]
    cases ((Act.onSecond (plainSession connection.settings)).run (connection, net)).value with
    | error cause => rfl
    | ok session => rfl
  · simp only [hexpired]
    rfl

theorem settings_plainRead (statement : String) :
    ((plainRead statement).run (connection, net)).world.1.settings = connection.settings := by
  rw [← settings_plainRefresh connection net]
  unfold plainRead
  rw [Act.run_bind]
  cases (plainRefresh.run (connection, net)).value with
  | error cause => rfl
  | ok _ =>
      simp only [Act.run_bind]
      cases ((talk (BoltPool.rowCount statement)).run
          (plainRefresh.run (connection, net)).world).value with
      | error fault => rfl
      | ok rows => rfl

theorem settings_plainPing :
    (plainPing.run (connection, net)).world.1.settings = connection.settings := by
  rw [← settings_plainRefresh connection net]
  unfold plainPing
  rw [Act.run_bind]
  cases (plainRefresh.run (connection, net)).value with
  | error cause => rfl
  | ok _ => rfl

end OnConnection

theorem settings_of_plainConnect {settings : GraphSettings} {net : BoltNet}
    {connection : GraphConnection}
    (h : ((plainConnect settings).run net).value = .ok connection) :
    connection.settings = settings := by
  unfold plainConnect at h
  simp only [Act.run_bind, Act.run_note] at h
  cases hsession : ((plainSession settings).run net).value with
  | error cause =>
      rw [hsession] at h
      cases h
  | ok session =>
      rw [hsession] at h
      cases h
      rfl

end GraphConnection

/-! ## Tests -/

namespace Amundsen

/-- The result that an answer to the statement of the check leaves. -/
def accessResult (answer : Except StepFailure Nat) : StepResult :=
  Runner.resultOf checkAccess ⟨0, answer.map fun _ => ()⟩

/-- The report on an answer to the statement of the check. -/
def accessReport (answer : Except StepFailure Nat) (stamp : Timestamp) : Report :=
  Report.of service [accessResult answer] stamp

/-- The events that a test begins with. -/
def openingEvents (policy : RunPolicy) : List Event :=
  [Runner.event .info "running test connection" service
      [("steps", .ofNat 1), ("policy", .string policy.name)],
   Runner.stepEvent .debug "running step" service checkAccess []]

/-- The event of a run that ends with a failure. -/
def stopEvents (policy : RunPolicy) (answer : Except StepFailure Nat) : List Event :=
  if (accessResult answer).status = .failed ∧ policy = .failFast then
    [Runner.stepEvent .debug "fail-fast: not running remaining steps" service checkAccess []]
  else []

/-- The events between an answer to the statement and the delivery of the report. -/
def closingEvents (policy : RunPolicy) (stamp : Timestamp) (answer : Except StepFailure Nat) :
    List Event :=
  Runner.endEvent service checkAccess ⟨0, answer.map fun _ => ()⟩ :: stopEvents policy answer ++
    [Runner.event .info "test connection finished" service
      [("status", .string (accessReport answer stamp).verdict.variantName)]]

section Reading

variable (connection : GraphConnection) (net : BoltNet)

/-- The only step of the check. -/
def accessStep : Step (GraphConnection × BoltNet) where
  name := checkAccess
  probe := do
    let answer ← GraphConnection.read userQuery
    return ⟨0, answer.map fun _ => ()⟩

theorem run_attempt :
    let reading := (GraphConnection.read userQuery).run (connection, net)
    (Runner.attempt service accessStep).run (connection, net) =
      ⟨⟨0, reading.value.map fun _ => ()⟩, reading.world,
        Runner.stepEvent .debug "running step" service checkAccess [] :: reading.events ++
          [Runner.endEvent service checkAccess ⟨0, reading.value.map fun _ => ()⟩]⟩ := by
  intro reading
  simp only [Runner.attempt, accessStep, Step.bounded, Act.run_bind, Act.run_note, Act.run_pure,
    List.append_nil]
  rfl

theorem run_runFrom (policy : RunPolicy) :
    let reading := (GraphConnection.read userQuery).run (connection, net)
    (Runner.runFrom service policy [] connector.steps).run (connection, net) =
      ⟨⟨[accessResult reading.value], 0⟩, reading.world,
        Runner.stepEvent .debug "running step" service checkAccess [] :: reading.events ++
          Runner.endEvent service checkAccess ⟨0, reading.value.map fun _ => ()⟩ ::
            stopEvents policy reading.value⟩ := by
  intro reading
  have hsteps : connector.steps = [accessStep] := rfl
  have hfree : Runner.obstacle? [] accessStep = none := rfl
  rw [hsteps, Runner.runFrom, hfree]
  dsimp only
  rw [Act.run_bind_of_run_eq (run_attempt connection net)]
  unfold stopEvents
  by_cases hstops : (accessResult reading.value).status = .failed ∧ policy = .failFast
  · have hbranch : (Runner.resultOf accessStep.name
        ⟨0, ((GraphConnection.read userQuery).run (connection, net)).value.map
          fun _ => ()⟩).status = .failed ∧ policy = .failFast := hstops
    rw [if_pos hstops]
    simp only [if_pos hbranch, Act.run_bind, Act.run_note, Act.run_pure, List.append_nil,
      List.append_assoc]
    rfl
  · have hbranch : ¬ ((Runner.resultOf accessStep.name
        ⟨0, ((GraphConnection.read userQuery).run (connection, net)).value.map
          fun _ => ()⟩).status = .failed ∧ policy = .failFast) := hstops
    rw [if_neg hstops]
    simp only [if_neg hbranch, Runner.runFrom, Act.run_bind, Act.run_pure, List.append_nil]
    rfl

theorem run_run (runner : Runner (GraphConnection × BoltNet))
    (hsteps : runner.steps = connector.steps) (policy : RunPolicy) (stamp : Timestamp) :
    let reading := (GraphConnection.read userQuery).run (connection, net)
    (runner.run service policy stamp).run (connection, net) =
      ⟨(accessReport reading.value stamp, 0), reading.world,
        openingEvents policy ++ reading.events ++ closingEvents policy stamp reading.value⟩ := by
  intro reading
  unfold Runner.run
  rw [Act.run_bind, Act.run_note, hsteps]
  dsimp only
  rw [Act.run_bind_of_run_eq (run_runFrom connection net policy)]
  simp only [Act.run_bind, Act.run_note, Act.run_pure, List.append_nil]
  unfold openingEvents closingEvents
  simp only [List.append_assoc, List.cons_append, List.nil_append]
  rfl

/-- **A test is a reading and the delivery** of the report on its answer. -/
theorem run_test (purpose : Purpose τ) (stamp : Timestamp) (records : τ) :
    let reading := (GraphConnection.read userQuery).run (connection, net)
    let delivery := (purpose.deliver (accessReport reading.value stamp)).run records
    (connector.test purpose stamp).run ((connection, net), records) =
      ⟨delivery.value, (reading.world, delivery.world),
        openingEvents purpose.policy ++ reading.events ++
          closingEvents purpose.policy stamp reading.value ++ delivery.events⟩ := by
  have hfits : stepsFault? [] connector.steps = none := by decide
  intro reading delivery
  unfold Connector.test
  rw [Runner.of?_of_eq_none hfits]
  have hrun := run_run connection net ⟨connector.steps, hfits⟩ rfl purpose.policy stamp
  have hfirst : (Act.onFirst ((⟨connector.steps, hfits⟩ : Runner _).run service purpose.policy
      stamp)).run ((connection, net), records) = _ := Act.run_onFirst _ _ _
  rw [hrun] at hfirst
  unfold testSteps
  exact Act.run_bind_of_run_eq hfirst _

end Reading

section Connecting

variable (settings : GraphSettings) (purpose : Purpose τ) (stamp : Timestamp)
  {net after : BoltNet} (records : τ) {events : List Event}

theorem run_connectAndTest_of_error {failure : ConnectionFailure}
    (hconnect : (GraphConnection.connect settings).run net = ⟨.error failure, after, events⟩) :
    (connector.connectAndTest settings purpose stamp).run (net, records) =
      ⟨.error (.connection failure), (after, records), events⟩ :=
  Connector.run_of_refused purpose stamp records hconnect

/-- **To connect and test** is to connect, to test and to note that the connection is closed. -/
theorem run_connectAndTest_of_ok {connection : GraphConnection}
    (hconnect : (GraphConnection.connect settings).run net = ⟨.ok connection, after, events⟩) :
    let test := (connector.test purpose stamp).run ((connection, after), records)
    (connector.connectAndTest settings purpose stamp).run (net, records) =
      ⟨test.value, (test.world.1.2, test.world.2), events ++ test.events ++
        [GraphConnection.hostEvent test.world.1.1.settings "neo4j connection closed"]⟩ := by
  intro test
  have hfirst : (Act.onFirst (connector.connect settings)).run (net, records) =
      ⟨.ok connection, (after, records), events⟩ := by
    rw [Act.run_onFirst]
    exact congrArg (fun done => Outcome.mk done.value (done.world, records) done.events) hconnect
  unfold Connector.connectAndTest
  rw [Act.run_bind_of_run_eq hfirst, List.append_assoc]
  rfl

end Connecting

end Amundsen

end Preflight
