import Preflight.Proofs.Concealment
import Preflight.Proofs.Conduct
import Preflight.Proofs.Earned

/-!
# Sessions that have reached their age

A session is given up for a new one when it is found to be too old, and it is found
to be so only when somebody wants to use it. There are three uses, to read, to ping
and to test, and they come in any order, on any of the connections, with any time
between them. What each of them does about the session depends on its age alone
(`Renewal`): a young session is used; for an old one, one new session is opened, and
it is used if that went well, and else nothing is changed.

That nothing is said on the old session cannot be seen from one operation, for the
sights of an account only show the numbers of links. It takes the whole history:
links are numbered in the order in which they are opened, so the link of a session
has a number below the count of links (`GraphWorld.Sound`), and the sights that a
new session adds are on links that have none. The induction for this is on the
operations before the one in question.

A ping that fails scrubs the cause of the failure, which was scrubbed before. This
makes a difference for a password that occurs in a scrubbed text, such as one made
of the characters of the mask (`ping_scrubs_twice`).

## Main results

* `GraphOperation.sound_performAll` — the links of the sessions after any operations.
* `GraphUse.session_renewed_by_age` — what a use does about the session.
-/

namespace Preflight

variable {τ α ε : Type}

/-! ## Three uses of a session -/

/-- What a client can do with a connection. -/
inductive GraphUse (τ : Type) where
  | read (statement : String)
  | ping
  | test (purpose : Purpose τ) (stamp : Timestamp)

namespace GraphUse

/-- The use as an operation on the connection of a number. -/
def operation (number : Nat) : GraphUse τ → GraphOperation τ
  | read statement => .read number statement
  | ping => .ping number
  | test purpose stamp => .test number purpose stamp

/-- The statement that is sent. -/
def statement : GraphUse τ → String
  | read statement => statement
  | ping => BoltPool.probeStatement
  | test .. => Amundsen.userQuery

/-- The talk that is wanted on the session. -/
def wanted : GraphUse τ → Talk Unit
  | read statement => do let _ ← BoltPool.rowCount statement
  | ping => BoltPool.verify
  | test .. => do let _ ← BoltPool.rowCount Amundsen.userQuery

/-- The answer if there is no session to be used. -/
def refusal (settings : GraphSettings) (failure : ConnectionFailure) (records : τ) :
    GraphUse τ → GraphAnswer
  | read _ => .counted (.error ⟨failure.kind, failure.cause, none⟩)
  | ping => .pinged (.error (.connection (.of settings failure.kind failure.cause)))
  | test purpose stamp =>
      let report := Amundsen.accessReport (.error ⟨failure.kind, failure.cause, none⟩) stamp
      .tested ((purpose.deliver report).run records).value

theorem conducts_wanted (use : GraphUse τ) : Talk.Conducts use.statement use.wanted := by
  cases use with
  | read statement =>
      exact (BoltPool.conducts_rowCount statement).bind fun _ => Talk.conducts_pure ()
  | ping => exact BoltPool.conducts_verify
  | test purpose stamp =>
      exact (BoltPool.conducts_rowCount Amundsen.userQuery).bind fun _ => Talk.conducts_pure ()

/-- What the use leaves of a connection and its surroundings. -/
def after (connection : GraphConnection) (net : BoltNet) : GraphUse τ → GraphConnection × BoltNet
  | read statement => ((GraphConnection.read statement).run (connection, net)).world
  | ping => (GraphConnection.ping.run (connection, net)).world
  | test .. => ((GraphConnection.read Amundsen.userQuery).run (connection, net)).world

section After

variable {connection : GraphConnection} {net : BoltNet}

/-- What is done with the value of a talk leaves the world as it is. -/
theorem world_talk_bind_pure (wanted : Talk α) (world : GraphConnection × BoltNet) :
    ((GraphConnection.talk (wanted >>= fun _ => pure ())).run world).world =
      ((GraphConnection.talk wanted).run world).world := by
  obtain ⟨connection, net⟩ := world
  have hrun : (wanted >>= fun _ => pure () : Talk Unit).run.run (connection.session.pool, net) =
      (wanted.run >>= ExceptT.bindCont fun _ => pure ()).run (connection.session.pool, net) := rfl
  have hworld : ((wanted >>= fun _ => pure () : Talk Unit).run.run
        (connection.session.pool, net)).world =
      (wanted.run.run (connection.session.pool, net)).world := by
    rw [hrun, Act.run_bind]
    dsimp only
    cases (wanted.run.run (connection.session.pool, net)).value with
    | error fault => rfl
    | ok a => rfl
  exact congrArg (fun world : BoltPool × BoltNet =>
    (({ connection with session.pool := world.1 } : GraphConnection), world.2)) hworld

theorem after_of_refresh_error (use : GraphUse τ) {failure : ConnectionFailure}
    (h : (GraphConnection.refresh.run (connection, net)).value = .error failure) :
    use.after connection net = (GraphConnection.refresh.run (connection, net)).world := by
  cases use with
  | read statement =>
      exact ((GraphConnection.uses_read statement connection net).of_refresh_error failure h).2
  | ping => exact ((GraphConnection.uses_ping connection net).of_refresh_error failure h).2
  | test purpose stamp =>
      exact ((GraphConnection.uses_read _ connection net).of_refresh_error failure h).2

theorem after_of_refresh_ok (use : GraphUse τ)
    (h : (GraphConnection.refresh.run (connection, net)).value = .ok ()) :
    use.after connection net =
      ((GraphConnection.talk use.wanted).run
        (GraphConnection.refresh.run (connection, net)).world).world := by
  cases use with
  | read statement =>
      rw [wanted, world_talk_bind_pure]
      exact ((GraphConnection.uses_read statement connection net).of_refresh_ok h).2
  | ping => exact ((GraphConnection.uses_ping connection net).of_refresh_ok h).2
  | test purpose stamp =>
      rw [wanted, world_talk_bind_pure]
      exact ((GraphConnection.uses_read _ connection net).of_refresh_ok h).2

theorem after_of_young (use : GraphUse τ) (h : connection.isExpired net.nowMs = false) :
    use.after connection net = ((GraphConnection.talk use.wanted).run (connection, net)).world := by
  have hrefresh := GraphConnection.run_refresh_of_young h
  rw [use.after_of_refresh_ok (by rw [hrefresh]), hrefresh]

theorem after_of_renewed (use : GraphUse τ) (h : connection.isExpired net.nowMs = true)
    {session : GraphSession}
    (hsession : ((GraphConnection.openSession connection.settings).run net).value = .ok session) :
    use.after connection net = ((GraphConnection.talk use.wanted).run ({ connection with session },
      ((GraphConnection.openSession connection.settings).run net).world)).world := by
  obtain ⟨hvalue, hworld⟩ := GraphConnection.refresh_of_expired h
  rw [hsession] at hvalue hworld
  rw [use.after_of_refresh_ok hvalue, hworld]

theorem refresh_of_refused (h : connection.isExpired net.nowMs = true)
    {failure : ConnectionFailure}
    (hfailure : ((GraphConnection.openSession connection.settings).run net).value =
      .error failure) :
    (GraphConnection.refresh.run (connection, net)).value = .error failure ∧
      (GraphConnection.refresh.run (connection, net)).world =
        (connection, ((GraphConnection.openSession connection.settings).run net).world) := by
  obtain ⟨hvalue, hworld⟩ := GraphConnection.refresh_of_expired h
  rw [hfailure] at hvalue hworld
  exact ⟨hvalue, hworld⟩

end After

/-- What the use is as an operation. -/
theorem run_operation (use : GraphUse τ) (settings : GraphSettings) {number : Nat}
    {world : GraphWorld τ} {connection : GraphConnection}
    (h : world.connections[number]? = some connection) :
    let done := ((use.operation number).perform settings).run world
    (done.world.connections = world.connections.set number (use.after connection world.net).1 ∧
        done.world.net = (use.after connection world.net).2) ∧
      ∀ failure, (GraphConnection.refresh.run (connection, world.net)).value = .error failure →
        done.value = use.refusal connection.settings failure world.records := by
  cases use with
  | read statement =>
      have huse := GraphConnection.uses_read statement connection world.net
      have hperform : ((GraphOperation.read number statement).perform settings).run world = _ :=
        Act.run_bind_of_run_eq (GraphWorld.run_onConnection_of_some
          (Act.onFirst (GraphConnection.read statement)) h) _
      rw [Act.run_onFirst, Act.run_pure] at hperform
      rw [operation, hperform, after]
      refine ⟨⟨rfl, rfl⟩, fun failure hfailure => ?_⟩
      exact congrArg GraphAnswer.counted (huse.of_refresh_error failure hfailure).1
  | ping =>
      have huse := GraphConnection.uses_ping connection world.net
      have hperform : ((GraphOperation.ping number).perform settings).run world = _ :=
        Act.run_bind_of_run_eq (GraphWorld.run_onConnection_of_some
          (Act.onFirst GraphConnection.ping) h) _
      rw [Act.run_onFirst, Act.run_pure] at hperform
      rw [operation, hperform, after]
      refine ⟨⟨rfl, rfl⟩, fun failure hfailure => ?_⟩
      exact congrArg GraphAnswer.pinged (huse.of_refresh_error failure hfailure).1
  | test purpose stamp =>
      have huse := GraphConnection.uses_read Amundsen.userQuery connection world.net
      have hperform : ((GraphOperation.test number purpose stamp).perform settings).run world = _ :=
        Act.run_bind_of_run_eq (GraphWorld.run_onConnection_of_some
          (Amundsen.connector.test purpose stamp) h) _
      rw [Amundsen.run_test connection world.net purpose, Act.run_pure] at hperform
      rw [operation, hperform, after]
      refine ⟨⟨rfl, rfl⟩, fun failure hfailure => ?_⟩
      rw [(huse.of_refresh_error failure hfailure).1]
      rfl

/-- Without a connection there is nothing to be used. -/
theorem run_operation_of_none (use : GraphUse τ) (settings : GraphSettings) {number : Nat}
    {world : GraphWorld τ} (h : world.connections[number]? = none) :
    (((use.operation number).perform settings).run world).world = world := by
  cases use with
  | read statement =>
      have hrun := GraphWorld.run_onConnection_of_none
        (Act.onFirst (GraphConnection.read statement)) h
      have hperform : ((GraphOperation.read number statement).perform settings).run world = _ :=
        Act.run_bind_of_run_eq hrun _
      rw [operation, hperform]
      rfl
  | ping =>
      have hrun := GraphWorld.run_onConnection_of_none (Act.onFirst GraphConnection.ping) h
      have hperform : ((GraphOperation.ping number).perform settings).run world = _ :=
        Act.run_bind_of_run_eq hrun _
      rw [operation, hperform]
      rfl
  | test purpose stamp =>
      have hrun := GraphWorld.run_onConnection_of_none (Amundsen.connector.test purpose stamp) h
      have hperform : ((GraphOperation.test number purpose stamp).perform settings).run world = _ :=
        Act.run_bind_of_run_eq hrun _
      rw [operation, hperform]
      rfl

end GraphUse

/-! ## The links of sessions -/

/-- The connection belongs to the settings, and the link of its session was opened. -/
structure GraphConnection.Sound (settings : GraphSettings) (net : BoltNet)
    (connection : GraphConnection) : Prop where
  belongs : connection.settings = settings
  opened : ∀ link ∈ connection.session.pool.link, link.number < net.links

namespace GraphConnection

variable {settings : GraphSettings} {net : BoltNet} {connection : GraphConnection}

theorem Sound.mono (h : connection.Sound settings net) {later : BoltNet}
    (hlinks : net.links ≤ later.links) : connection.Sound settings later where
  belongs := h.belongs
  opened := fun link hlink => Nat.lt_of_lt_of_le (h.opened link hlink) hlinks

/-- A session that was just opened has a link that was just opened. -/
theorem sound_of_openSession {session : GraphSession}
    (h : ((openSession settings).run net).value = .ok session) :
    Sound settings ((openSession settings).run net).world ⟨settings, session⟩ := by
  obtain ⟨left, sights, hconduct, hleft⟩ := conduct_openSession settings net
  refine ⟨rfl, fun link hlink => ?_⟩
  rw [(hleft session h).1] at hlink
  exact hconduct.left_lt nofun link hlink

theorem links_openSession (settings : GraphSettings) (net : BoltNet) :
    net.links ≤ ((openSession settings).run net).world.links := by
  obtain ⟨_, _, hconduct, -⟩ := conduct_openSession settings net
  exact hconduct.links

/-- A talk leaves a sound connection sound. -/
theorem sound_talk {wanted : Talk α} {statement : String} (h : Talk.Conducts statement wanted)
    (hsound : connection.Sound settings net) :
    let talking := (talk wanted).run (connection, net)
    talking.world.1.Sound settings talking.world.2 ∧ net.links ≤ talking.world.2.links := by
  obtain ⟨sights, hconduct⟩ := conduct_talk h connection net
  exact ⟨⟨hsound.belongs, hconduct.left_lt hsound.opened⟩, hconduct.links⟩

end GraphConnection

/-- A use leaves a sound connection sound, and links are only added. -/
theorem GraphUse.sound_after (use : GraphUse τ) {settings : GraphSettings}
    {connection : GraphConnection} {net : BoltNet} (h : connection.Sound settings net) :
    (use.after connection net).1.Sound settings (use.after connection net).2 ∧
      net.links ≤ (use.after connection net).2.links := by
  obtain rfl := h.belongs
  by_cases hexpired : connection.isExpired net.nowMs = true
  · have hlinks := GraphConnection.links_openSession connection.settings net
    cases hsession : ((GraphConnection.openSession connection.settings).run net).value with
    | error failure =>
        obtain ⟨hvalue, hworld⟩ := refresh_of_refused hexpired hsession
        rw [use.after_of_refresh_error hvalue, hworld]
        dsimp only
        exact ⟨h.mono hlinks, hlinks⟩
    | ok session =>
        have hnew := GraphConnection.sound_of_openSession hsession
        obtain ⟨hsound, hmore⟩ := GraphConnection.sound_talk use.conducts_wanted hnew
        rw [use.after_of_renewed hexpired hsession]
        exact ⟨hsound, Nat.le_trans hlinks hmore⟩
  · rw [use.after_of_young (eq_false_of_ne_true hexpired)]
    exact GraphConnection.sound_talk use.conducts_wanted h

/-- All connections of a world are sound. -/
def GraphWorld.Sound (settings : GraphSettings) (world : GraphWorld τ) : Prop :=
  ∀ connection ∈ world.connections, connection.Sound settings world.net

namespace GraphOperation

variable {settings : GraphSettings}

theorem sound_use (use : GraphUse τ) (number : Nat) :
    Act.Keeps (GraphWorld.Sound settings) ((use.operation number).perform settings) := by
  intro world hsound
  cases hthere : world.connections[number]? with
  | none =>
      rw [use.run_operation_of_none settings hthere]
      exact hsound
  | some connection =>
      obtain ⟨⟨hconnections, hnet⟩, -⟩ := use.run_operation settings hthere
      have hconnection := hsound connection (List.mem_of_getElem? hthere)
      obtain ⟨hafter, hlinks⟩ := use.sound_after hconnection
      intro other hother
      rw [hconnections] at hother
      rw [hnet]
      rcases List.mem_or_eq_of_mem_set hother with hold | rfl
      · exact (hsound other hold).mono hlinks
      · exact hafter

theorem sound_connect : Act.Keeps (GraphWorld.Sound settings)
    ((connect : GraphOperation τ).perform settings) := by
  intro world hsound
  obtain ⟨hvalue, hworld⟩ := GraphConnection.connect_spec settings world.net
  have hlinks := GraphConnection.links_openSession settings world.net
  have hnew : ∀ session,
      ((GraphConnection.openSession settings).run world.net).value = .ok session →
        GraphConnection.Sound settings
          ((GraphConnection.openSession settings).run world.net).world ⟨settings, session⟩ :=
    fun session => GraphConnection.sound_of_openSession
  have hrun : (GraphWorld.onNet (GraphConnection.connect settings)).run world =
      ⟨((GraphConnection.connect settings).run world.net).value,
        { world with net := ((GraphConnection.connect settings).run world.net).world },
        ((GraphConnection.connect settings).run world.net).events⟩ := rfl
  unfold perform
  rw [Act.run_bind, hrun, hvalue, hworld]
  generalize (GraphConnection.openSession settings).run world.net = opening at hlinks hnew
  obtain ⟨result, after, events⟩ := opening
  have hold : ∀ connection ∈ world.connections, connection.Sound settings after :=
    fun connection hconnection => (hsound connection hconnection).mono hlinks
  cases result with
  | error failure => exact hold
  | ok session =>
      exact List.forall_mem_append.mpr ⟨hold, List.forall_mem_singleton.mpr (hnew session rfl)⟩

/-- To connect for the time of a test only adds links. -/
theorem links_connectAndTest (purpose : Purpose τ) (stamp : Timestamp) (net : BoltNet)
    (records : τ) :
    net.links ≤ ((Amundsen.connector.connectAndTest settings purpose stamp).run
      (net, records)).world.1.links := by
  have hlinks := GraphConnection.links_openSession settings net
  obtain ⟨hvalue, hworld⟩ := GraphConnection.connect_spec settings net
  cases hconnect : (GraphConnection.connect settings).run net with
  | mk result after events =>
      rw [hconnect] at hvalue hworld
      obtain rfl : after = ((GraphConnection.openSession settings).run net).world := hworld
      cases result with
      | error failure =>
          rw [Amundsen.run_connectAndTest_of_error settings purpose stamp records hconnect]
          dsimp only
          exact hlinks
      | ok connection =>
          rw [Amundsen.run_connectAndTest_of_ok settings purpose stamp records hconnect,
            Amundsen.run_test connection _ purpose]
          obtain ⟨session, hsession, rfl⟩ := exists_of_map_eq_ok hvalue.symm
          have hsound := GraphConnection.sound_of_openSession hsession
          exact Nat.le_trans hlinks ((GraphUse.test purpose stamp).sound_after hsound).2

theorem sound_perform (operation : GraphOperation τ) :
    Act.Keeps (GraphWorld.Sound settings) (operation.perform settings) := by
  cases operation with
  | connect => exact sound_connect
  | read number statement => exact sound_use (.read statement) number
  | ping number => exact sound_use .ping number
  | test number purpose stamp => exact sound_use (.test purpose stamp) number
  | connectAndTest purpose stamp =>
      intro world hsound connection hconnection
      exact (hsound connection hconnection).mono
        (links_connectAndTest purpose stamp world.net world.records)
  | wait ms => exact fun world hsound connection hconnection =>
      (hsound connection hconnection).mono (Nat.le_refl _)

/-- **The links of all sessions were opened**, whatever was done before. -/
theorem sound_performAll (operations : List (GraphOperation τ)) :
    Act.Keeps (GraphWorld.Sound settings) (performAll settings operations) := by
  induction operations with
  | nil => exact fun world hsound => hsound
  | cons operation rest ih =>
      intro world hsound
      exact ih _ (sound_perform operation world hsound)

end GraphOperation

/-! ## What a use does about a session -/

/-- What comes of the use of a connection, by the age of its session.

* A young session is used as it is.
* An expired one is given up for one that is opened, and everything that is sent is sent on new
  links.
* If none can be opened, nothing is sent but what belongs to the opening, and the connection is
  left as it was, so that it is expired at any later time too. A ping shows the failure scrubbed
  once more, which is the failure itself if the password is not in its cause. -/
structure GraphUse.Renewal (use : GraphUse τ) (connection : GraphConnection) (net : BoltNet)
    (records : τ) (answer : GraphAnswer) (left : GraphConnection) (after : BoltNet) : Prop where
  young : connection.isExpired net.nowMs = false →
    (left, after) = ((GraphConnection.talk use.wanted).run (connection, net)).world ∧
      ∃ sights, after.seen = net.seen ++ sights ∧ ∀ sight ∈ sights, sight.States use.statement
  renewed : connection.isExpired net.nowMs = true → ∀ session,
    ((GraphConnection.openSession connection.settings).run net).value = .ok session →
      session.openedMs = net.nowMs ∧
      (left, after) = ((GraphConnection.talk use.wanted).run ({ connection with session },
        ((GraphConnection.openSession connection.settings).run net).world)).world ∧
      ∃ renewal sights, after.seen = net.seen ++ (renewal ++ sights) ∧
        connection.settings.Opened net renewal ∧
        (∀ sight ∈ sights, sight.States use.statement) ∧
        ∀ sight ∈ renewal ++ sights, net.links ≤ sight.link
  refused : connection.isExpired net.nowMs = true → ∀ failure,
    ((GraphConnection.openSession connection.settings).run net).value = .error failure →
      answer = use.refusal connection.settings failure records ∧ left = connection ∧
      after = ((GraphConnection.openSession connection.settings).run net).world ∧
      (∃ sights, after.seen = net.seen ++ sights ∧ ∀ sight ∈ sights,
        net.links ≤ sight.link ∧ sight.States BoltPool.probeStatement) ∧
      (∀ nowMs, after.nowMs ≤ nowMs → left.isExpired nowMs = true) ∧
      (¬connection.settings.password.OccursIn failure.cause →
        ConnectionFailure.of connection.settings failure.kind failure.cause = failure)

theorem GraphConnection.isExpired_mono {connection : GraphConnection} {nowMs later : Nat}
    (h : connection.isExpired nowMs = true) (hlater : nowMs ≤ later) :
    connection.isExpired later = true := by
  unfold isExpired at h ⊢
  rw [decide_eq_true_eq] at h ⊢
  omega

/-- A failure to open a session is free of the password already, unless the mask has brought it
back. -/
theorem GraphConnection.failure_of_openSession {settings : GraphSettings} {net : BoltNet}
    {failure : ConnectionFailure}
    (h : ((openSession settings).run net).value = .error failure)
    (habsent : ¬settings.password.OccursIn failure.cause) :
    ConnectionFailure.of settings failure.kind failure.cause = failure := by
  rw [openSession_eq, Act.run_showing] at h
  cases hplain : ((plainSession settings).run net).value with
  | ok session =>
      rw [hplain] at h
      cases h
  | error cause =>
      rw [hplain] at h
      obtain rfl : cause.shown settings = failure := Except.error.inj h
      have hcause : scrub (cause.shown settings).cause [settings.password] =
          (cause.shown settings).cause := scrub_of_not_occursIn habsent
      exact congrArg (ConnectionFailure.mk settings.redacted cause.kind) hcause

namespace GraphUse

variable {connection : GraphConnection} {net : BoltNet} {records : τ} {answer : GraphAnswer}

/-- Every use goes by the age of the session. -/
theorem renewal_after (use : GraphUse τ) (hanswer : ∀ failure,
      (GraphConnection.refresh.run (connection, net)).value = .error failure →
        answer = use.refusal connection.settings failure records) :
    use.Renewal connection net records answer (use.after connection net).1
      (use.after connection net).2 where
  young := by
    intro hyoung
    obtain ⟨sights, hconduct⟩ :=
      GraphConnection.conduct_talk use.conducts_wanted connection net
    rw [use.after_of_young hyoung]
    exact ⟨rfl, sights, hconduct.seen, hconduct.states⟩
  renewed := by
    intro hexpired session hsession
    obtain ⟨left, opening, hopening, hleft⟩ :=
      GraphConnection.conduct_openSession connection.settings net
    obtain ⟨renewal, hseen, hopened⟩ := GraphConnection.opened_of_openSession hsession
    obtain rfl : opening = renewal := List.append_cancel_left (hopening.seen.symm.trans hseen)
    obtain ⟨hlink, hage⟩ := hleft session hsession
    obtain ⟨sights, htalk⟩ := GraphConnection.conduct_talk use.conducts_wanted
      { connection with session }
      ((GraphConnection.openSession connection.settings).run net).world
    rw [use.after_of_renewed hexpired hsession]
    rw [hlink] at htalk
    refine ⟨hage, rfl, opening, sights, ?_, hopened, htalk.states, ?_⟩
    · rw [htalk.seen, hseen, List.append_assoc]
    · exact List.forall_mem_append.mpr ⟨hopening.own_le, hopening.own_le_of_left htalk⟩
  refused := by
    intro hexpired failure hfailure
    obtain ⟨left, sights, hopening, -⟩ :=
      GraphConnection.conduct_openSession connection.settings net
    obtain ⟨hvalue, hworld⟩ := refresh_of_refused hexpired hfailure
    rw [use.after_of_refresh_error hvalue, hworld]
    dsimp only
    refine ⟨hanswer failure hvalue, rfl, rfl, ⟨sights, hopening.seen, fun sight hsight => ?_⟩, ?_,
      GraphConnection.failure_of_openSession hfailure⟩
    · exact ⟨hopening.own_le sight hsight, hopening.states sight hsight⟩
    · intro nowMs hlater
      exact GraphConnection.isExpired_mono hexpired (hopening.nowMs ▸ hlater)

end GraphUse

/-- **Sessions are renewed by their age.** Whatever a client did before, if it now uses one of its
connections, the use goes by the age of the session. The link of the old session was opened long
before, so nothing that is sent on new links is sent on it. -/
theorem GraphUse.session_renewed_by_age (settings : GraphSettings)
    (before : List (GraphOperation τ)) (net : BoltNet) (records : τ) (use : GraphUse τ)
    {number : Nat} {connection : GraphConnection}
    (hthere : ((GraphOperation.performAll settings before).run
      ⟨[], net, records⟩).world.connections[number]? = some connection) :
    let world := ((GraphOperation.performAll settings before).run ⟨[], net, records⟩).world
    let done := ((use.operation number).perform settings).run world
    connection.Sound settings world.net ∧
      ∃ left, done.world.connections = world.connections.set number left ∧
        use.Renewal connection world.net world.records done.value left done.world.net := by
  intro world done
  have hsound : GraphWorld.Sound settings world :=
    GraphOperation.sound_performAll before ⟨[], net, records⟩ nofun
  obtain ⟨⟨hconnections, hnet⟩, hanswer⟩ := use.run_operation settings hthere
  refine ⟨hsound connection (List.mem_of_getElem? hthere), _, hconnections, ?_⟩
  rw [hnet]
  exact use.renewal_after hanswer

/-- Settings with which a session is always too old. -/
def restlessSettings (password : String) : GraphSettings :=
  { echoedSettings password with lifetimeSecs := 0 }

/-- A connection was made, and the peer will say `text` to the next statement. -/
def restlessWorld (password text : String) : GraphWorld Unit :=
  ((GraphOperation.performAll (restlessSettings password) [.connect]).run
    ⟨[], echoingNet text, ()⟩).world

theorem GraphUse.session_renewed_by_age_restless :
    let world := restlessWorld "hunter2" "busy"
    let use : GraphUse Unit := .read "RETURN 2"
    let done := ((use.operation 0).perform (restlessSettings "hunter2")).run world
    ∃ connection failure, world.connections[0]? = some connection ∧
      connection.isExpired world.net.nowMs = true ∧
      ((GraphConnection.openSession (restlessSettings "hunter2")).run world.net).value =
        .error failure ∧
      done.value = .counted (.error ⟨failure.kind, failure.cause, none⟩) ∧
      done.world.connections = world.connections.set 0 connection := by
  have hexpired : (restlessWorld "hunter2" "busy").connections[0]?.map
      (·.isExpired (restlessWorld "hunter2" "busy").net.nowMs) = some true := by
    decide +kernel
  have hfailed : ((GraphConnection.openSession (restlessSettings "hunter2")).run
      (restlessWorld "hunter2" "busy").net).value.isOk = false := by
    decide +kernel
  obtain ⟨connection, hthere, hold⟩ := Option.map_eq_some_iff.mp hexpired
  obtain ⟨hsound, left, hconnections, hrenewal⟩ :=
    GraphUse.session_renewed_by_age (restlessSettings "hunter2") [.connect] (echoingNet "busy") ()
      (.read "RETURN 2") hthere
  have hrefused := hrenewal.refused hold
  rw [hsound.belongs] at hrefused
  intro world use done
  cases hopening : ((GraphConnection.openSession (restlessSettings "hunter2")).run
      (restlessWorld "hunter2" "busy").net).value with
  | ok session =>
      rw [hopening] at hfailed
      cases hfailed
  | error failure =>
      obtain ⟨hanswer, rfl, -⟩ := hrefused failure hopening
      exact ⟨left, failure, hthere, hold, rfl, hanswer, hconnections⟩

/-- The cause of a failed ping is not always the scrubbed cause of the failure to open a session:
it is scrubbed once more, and here the mask has the password in it. -/
theorem ping_scrubs_twice :
    let world := restlessWorld "*" "bad * thing"
    let opening := (GraphConnection.openSession (restlessSettings "*")).run world.net
    let done := ((GraphOperation.ping 0).perform (restlessSettings "*")).run world
    ∃ failure shown : ConnectionFailure, opening.value = .error failure ∧
      done.value = .pinged (.error (.connection shown)) ∧ shown.cause ≠ failure.cause := by
  let text := "Neo4j error `Neo.ClientError.Statement.SyntaxError`: bad * thing"
  have hplain : (((GraphConnection.plainSession (restlessSettings "*")).run
      (restlessWorld "*" "bad * thing").net).value.map fun _ => ()).mapError (·.text) =
        .error text := by
    decide +kernel
  have hexpired : (restlessWorld "*" "bad * thing").connections[0]?.map
      (·.isExpired (restlessWorld "*" "bad * thing").net.nowMs) = some true := by
    decide +kernel
  have hscrubs : scrub (scrub text [⟨"*"⟩]) [⟨"*"⟩] ≠ scrub text [⟨"*"⟩] := by
    decide +kernel
  obtain ⟨connection, hthere, hold⟩ := Option.map_eq_some_iff.mp hexpired
  have hsound : GraphWorld.Sound (restlessSettings "*") (restlessWorld "*" "bad * thing") :=
    GraphOperation.sound_performAll [.connect] ⟨[], echoingNet "bad * thing", ()⟩ nofun
  have hbelongs := (hsound connection (List.mem_of_getElem? hthere)).belongs
  have hanswer := (GraphUse.ping.run_operation (restlessSettings "*") hthere).2
  generalize restlessWorld "*" "bad * thing" = world at *
  intro world opening done
  cases hcause : ((GraphConnection.plainSession (restlessSettings "*")).run world.net).value with
  | ok session =>
      rw [hcause] at hplain
      cases hplain
  | error cause =>
      rw [hcause] at hplain
      have htext : cause.text = text := Except.error.inj hplain
      have hopening : ((GraphConnection.openSession (restlessSettings "*")).run world.net).value =
          .error (cause.shown (restlessSettings "*")) := by
        rw [GraphConnection.openSession_eq, Act.run_showing, hcause]
        rfl
      rw [← hbelongs] at hopening
      have hrefused := hanswer _ (GraphUse.refresh_of_refused hold hopening).1
      rw [hbelongs] at hopening hrefused
      refine ⟨_, _, hopening, hrefused, ?_⟩
      show scrub (scrub cause.text [⟨"*"⟩]) [⟨"*"⟩] ≠ scrub cause.text [⟨"*"⟩]
      rw [htext]
      exact hscrubs

end Preflight
