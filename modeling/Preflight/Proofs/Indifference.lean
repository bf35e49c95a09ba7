import Mathlib.Data.List.Forall2
import Preflight.Proofs.Concealment
import Preflight.Proofs.Talk

/-!
# Runs that differ in a password

Two clients with the same settings but for the password, the same peer, the same
store and the same operations to do: what can they be told apart by? The password
goes into the login, where no answer depends on it, and into the scrubber. The
plain operations do not scrub, so they come to the same for both clients; they
leave connections that are twins. What is shown of the same texts is the same
again if neither password is in them, for then they are left as they are.

The texts that are scrubbed in the course of operations are `GraphOperation.texts`
and `textsOfAll`. They are asked about where they arise, in the world as it was when
the operation began, so the induction over the operations goes along two runs and
has to be about twin worlds, not about all worlds.

## Main results

* `GraphConnection.alike_plainRead` and others — plain operations on twins are alike.
* `password_makes_no_difference` — the runs of the two clients.
-/

namespace Preflight

variable {τ ε α α' : Type} {settings : GraphSettings} {other : Secret}

/-- The settings with another password. -/
def GraphSettings.withPassword (settings : GraphSettings) (other : Secret) : GraphSettings :=
  { settings with password := other }

namespace GraphSettings

@[simp] theorem redacted_withPassword :
    (settings.withPassword other).redacted = settings.redacted := rfl

@[simp] theorem hostPort_withPassword :
    (settings.withPassword other).hostPort = settings.hostPort := rfl

end GraphSettings

/-! ## Plain operations on twins -/

/-- The same error, or results that are related. -/
inductive ResultsAlike (R : α → α' → Prop) : Except ε α → Except ε α' → Prop where
  | error (e : ε) : ResultsAlike R (.error e) (.error e)
  | ok {a : α} {a' : α'} (h : R a a') : ResultsAlike R (.ok a) (.ok a')

/-- Acts on the second half of a world do not see the first one. -/
theorem Act.Alike.onSecond {ω ω' κ κ' : Type} {R : ω → ω' → Prop} {S : α → α' → Prop}
    {act : Act ω α} {act' : Act ω' α'} (h : Act.Alike R S act act') (C : κ → κ' → Prop) :
    Act.Alike (fun world world' => C world.1 world'.1 ∧ R world.2 world'.2) S
      (Act.onSecond act) (Act.onSecond act') := by
  rintro ⟨first, world⟩ ⟨first', world'⟩ ⟨hC, hR⟩
  obtain ⟨hvalue, hworld, hevents⟩ := h world world' hR
  exact ⟨hvalue, ⟨hC, hworld⟩, hevents⟩

theorem BoltNet.alike_look : Act.Alike BoltNet.Twins BoltNet.Twins Act.look Act.look :=
  fun _ _ h => ⟨h, h, rfl⟩

theorem BoltPool.alike_within_verify {pool pool' : BoltPool} (h : pool.Twins pool') :
    Act.Alike BoltNet.Twins (fun done done' => done.1 = done'.1 ∧ done.2.Twins done'.2)
      (Act.within pool BoltPool.verify.run) (Act.within pool' BoltPool.verify.run) := by
  intro net net' hnet
  obtain ⟨hvalue, ⟨hpool, hafter⟩, hevents⟩ := alike_verify (pool, net) (pool', net') ⟨h, hnet⟩
  exact ⟨⟨hvalue, hpool⟩, hafter, hevents⟩

/-- What is wrong with settings has nothing to do with the password. -/
theorem GraphSettings.plainEndpoint_withPassword (files : Files) :
    (settings.withPassword other).plainEndpoint files = settings.plainEndpoint files := rfl

theorem GraphSettings.alike_plainPool :
    Act.Alike BoltNet.Twins (ResultsAlike BoltPool.Twins) settings.plainPool
      (settings.withPassword other).plainPool := by
  refine BoltNet.alike_look.bind fun net net' hnet => ?_
  rw [plainEndpoint_withPassword, hnet.files]
  cases settings.plainEndpoint net'.files with
  | error cause => exact Act.alike_pure (.error cause)
  | ok endpoint =>
      have htwins : BoltPool.Twins ⟨endpoint, settings.username, settings.password, none⟩
          ⟨endpoint, settings.username, other, none⟩ := ⟨rfl, rfl, rfl⟩
      refine (BoltPool.alike_within_verify htwins).bind ?_
      rintro ⟨result, pool⟩ ⟨_, pool'⟩ ⟨rfl, hpool⟩
      cases result with
      | error fault => exact Act.alike_pure (.error _)
      | ok _ => exact Act.alike_pure (.ok hpool)

/-- Sessions that differ at most in the password. -/
structure GraphSession.Twins (session session' : GraphSession) : Prop where
  pool : session.pool.Twins session'.pool
  openedMs : session.openedMs = session'.openedMs

/-- A connection that belongs to the settings, and one that belongs to those with the other
password. -/
structure GraphConnection.Twins (settings : GraphSettings) (other : Secret)
    (connection connection' : GraphConnection) : Prop where
  belongs : connection.settings = settings
  belongs' : connection'.settings = settings.withPassword other
  session : connection.session.Twins connection'.session

/-- Twin connections with twin surroundings. -/
def ConnectionTwins (settings : GraphSettings) (other : Secret)
    (world world' : GraphConnection × BoltNet) : Prop :=
  world.1.Twins settings other world'.1 ∧ world.2.Twins world'.2

namespace GraphConnection

theorem alike_plainSession :
    Act.Alike BoltNet.Twins (ResultsAlike GraphSession.Twins) (plainSession settings)
      (plainSession (settings.withPassword other)) := by
  refine GraphSettings.alike_plainPool.bind fun result result' hresult => ?_
  cases hresult with
  | error cause => exact Act.alike_pure (.error cause)
  | ok hpool =>
      refine BoltNet.alike_look.bind fun net net' hnet => ?_
      exact Act.alike_pure (.ok ⟨hpool, hnet.nowMs⟩)

theorem alike_plainConnect :
    Act.Alike BoltNet.Twins (ResultsAlike (Twins settings other)) (plainConnect settings)
      (plainConnect (settings.withPassword other)) := by
  unfold plainConnect hostEvent
  rw [GraphSettings.redacted_withPassword, GraphSettings.hostPort_withPassword]
  refine (Act.alike_note _).bind fun _ _ _ => ?_
  refine alike_plainSession.bind fun result result' hresult => ?_
  cases hresult with
  | error cause => exact Act.alike_pure (.error cause)
  | ok hsession =>
      refine (Act.alike_note _).bind fun _ _ _ => ?_
      exact Act.alike_pure (.ok ⟨rfl, rfl, hsession⟩)

theorem Twins.isExpired {connection connection' : GraphConnection}
    (h : connection.Twins settings other connection') (nowMs : Nat) :
    connection.isExpired nowMs = connection'.isExpired nowMs := by
  have hlifetime : connection.settings.lifetimeSecs = connection'.settings.lifetimeSecs := by
    rw [h.belongs, h.belongs', GraphSettings.withPassword]
  rw [GraphConnection.isExpired, GraphConnection.isExpired, hlifetime, h.session.openedMs]

theorem alike_plainRefresh :
    Act.Alike (ConnectionTwins settings other) Eq plainRefresh plainRefresh := by
  have hlook : Act.Alike (ConnectionTwins settings other) (ConnectionTwins settings other)
      Act.look Act.look := fun _ _ h => ⟨h, h, rfl⟩
  unfold plainRefresh hostEvent
  refine hlook.bind ?_
  rintro ⟨connection, net⟩ ⟨connection', net'⟩ ⟨hconnection, hnet⟩
  dsimp only
  rw [hconnection.isExpired, hnet.nowMs, hconnection.belongs, hconnection.belongs',
    GraphSettings.hostPort_withPassword]
  split
  · refine (Act.alike_note _).bind fun _ _ _ => ?_
    refine (alike_plainSession.onSecond _).bind fun result result' hresult => ?_
    cases hresult with
    | error cause => exact Act.alike_pure rfl
    | ok hsession =>
        rintro ⟨connection, net⟩ ⟨connection', net'⟩ ⟨hconnection, hnet⟩
        exact ⟨rfl, ⟨⟨hconnection.belongs, hconnection.belongs', hsession⟩, hnet⟩, rfl⟩
  · exact Act.alike_pure rfl

theorem alike_talk {talk talk' : Talk α} (h : Talk.Alike talk talk') :
    Act.Alike (ConnectionTwins settings other) Eq (GraphConnection.talk talk)
      (GraphConnection.talk talk') := by
  rintro ⟨connection, net⟩ ⟨connection', net'⟩ ⟨hconnection, hnet⟩
  obtain ⟨hvalue, ⟨hpool, hafter⟩, hevents⟩ := h (connection.session.pool, net)
    (connection'.session.pool, net') ⟨hconnection.session.pool, hnet⟩
  refine ⟨hvalue, ⟨⟨hconnection.belongs, hconnection.belongs', ?_⟩, hafter⟩, hevents⟩
  exact ⟨hpool, hconnection.session.openedMs⟩

/-- **To read plainly comes to the same on twins.** -/
theorem alike_plainRead (statement : String) :
    Act.Alike (ConnectionTwins settings other) Eq (plainRead statement) (plainRead statement) := by
  unfold plainRead
  refine alike_plainRefresh.bind ?_
  rintro refreshed _ rfl
  cases refreshed with
  | error cause => exact Act.alike_pure rfl
  | ok _ =>
      refine (alike_talk (BoltPool.alike_rowCount statement)).bind ?_
      rintro result _ rfl
      cases result with
      | error fault => exact Act.alike_pure rfl
      | ok rows => exact (Act.alike_note _).bind fun _ _ _ => Act.alike_pure rfl

/-- **To ping plainly comes to the same on twins.** -/
theorem alike_plainPing :
    Act.Alike (ConnectionTwins settings other) Eq plainPing plainPing := by
  unfold plainPing
  refine alike_plainRefresh.bind ?_
  rintro refreshed _ rfl
  cases refreshed with
  | error cause => exact Act.alike_pure rfl
  | ok _ =>
      refine (alike_talk BoltPool.alike_verify).bind ?_
      rintro result _ rfl
      exact Act.alike_pure rfl

end GraphConnection

/-! ## The texts that are scrubbed -/

namespace PlainFault

/-- The texts from which a failed statement is shown. -/
def readTexts : PlainFault → List String
  | opening cause => [cause.text]
  | talk fault => [fault.message, fault.diagnostic]

/-- The texts from which a failed ping is shown. -/
def pingTexts (settings : GraphSettings) : PlainFault → List String
  | opening cause => [cause.text]
  | talk fault => [settings.causeText fault]

end PlainFault

/-- The texts of a result, if it is an error. -/
def errorTexts (texts : ε → List String) : Except ε α → List String
  | .error e => texts e
  | .ok _ => []

namespace GraphOperation

/-- The texts that are scrubbed for the answer to a reading. -/
def textsOfReading (statement : String) (connection : GraphConnection) (net : BoltNet) :
    List String :=
  errorTexts PlainFault.readTexts
    ((GraphConnection.plainRead statement).run (connection, net)).value

/-- The texts that are scrubbed for the answer to connecting and testing. -/
def textsOfConnectAndTest (settings : GraphSettings) (net : BoltNet) : List String :=
  let connecting := (GraphConnection.plainConnect settings).run net
  match connecting.value with
  | .error cause => [cause.text]
  | .ok connection => textsOfReading Amundsen.userQuery connection connecting.world

/-- The texts that are scrubbed for the answer to an operation. -/
def texts (settings : GraphSettings) : GraphOperation τ → GraphWorld τ → List String
  | connect, world =>
      errorTexts (fun cause => [cause.text])
        ((GraphConnection.plainConnect settings).run world.net).value
  | read number statement, world =>
      world.connections[number]?.toList.flatMap fun connection =>
        textsOfReading statement connection world.net
  | ping number, world =>
      world.connections[number]?.toList.flatMap fun connection =>
        errorTexts (PlainFault.pingTexts connection.settings)
          (GraphConnection.plainPing.run (connection, world.net)).value
  | test number _ _, world =>
      world.connections[number]?.toList.flatMap fun connection =>
        textsOfReading Amundsen.userQuery connection world.net
  | connectAndTest _ _, world => textsOfConnectAndTest settings world.net
  | wait _, _ => []

/-- The texts that are scrubbed in the course of operations. -/
def textsOfAll (settings : GraphSettings) : List (GraphOperation τ) → GraphWorld τ → List String
  | [], _ => []
  | operation :: rest, world =>
      operation.texts settings world ++
        textsOfAll settings rest ((operation.perform settings).run world).world

end GraphOperation

/-- The secret is in none of the texts. -/
def Secret.IsAbsent (secret : Secret) (texts : List String) : Prop :=
  ∀ text ∈ texts, ¬ secret.OccursIn text

/-! ## Texts without the passwords -/

/-- A cause without the passwords is shown the same. -/
theorem PlainCause.shown_withPassword {cause : PlainCause}
    (h : settings.password.IsAbsent [cause.text]) (h' : other.IsAbsent [cause.text]) :
    cause.shown settings = cause.shown (settings.withPassword other) := by
  have hscrub : scrub cause.text [settings.password] = scrub cause.text [other] := by
    rw [scrub_of_not_occursIn (h _ List.mem_cons_self),
      scrub_of_not_occursIn (h' _ List.mem_cons_self)]
  exact congrArg (ConnectionFailure.mk settings.redacted cause.kind) hscrub

theorem PlainFault.stepFailure_withPassword {fault : PlainFault}
    (h : settings.password.IsAbsent fault.readTexts) (h' : other.IsAbsent fault.readTexts) :
    fault.stepFailure settings = fault.stepFailure (settings.withPassword other) := by
  cases fault with
  | opening cause =>
      have hshown : cause.shown settings = cause.shown (settings.withPassword other) :=
        PlainCause.shown_withPassword h h'
      rw [stepFailure, stepFailure, hshown]
  | talk fault =>
      have hmem : fault.diagnostic ∈ [fault.message, fault.diagnostic] :=
        List.mem_cons_of_mem _ List.mem_cons_self
      rw [stepFailure, stepFailure, GraphConnection.stepFailure, GraphConnection.stepFailure,
        GraphSettings.withPassword, scrub_of_not_occursIn (h _ List.mem_cons_self),
        scrub_of_not_occursIn (h' _ List.mem_cons_self), scrub_of_not_occursIn (h _ hmem),
        scrub_of_not_occursIn (h' _ hmem)]

theorem PlainFault.connectionFailure_withPassword {fault : PlainFault}
    (h : settings.password.IsAbsent (fault.pingTexts settings))
    (h' : other.IsAbsent (fault.pingTexts settings)) :
    fault.connectionFailure settings =
      fault.connectionFailure (settings.withPassword other) := by
  cases fault with
  | opening cause =>
      -- the cause has been scrubbed once already, and was left as it is
      have hshown : cause.shown settings = cause.shown (settings.withPassword other) :=
        PlainCause.shown_withPassword h h'
      have hplain : (cause.shown settings).cause = cause.text :=
        scrub_of_not_occursIn (h _ List.mem_cons_self)
      show PlainCause.shown settings ⟨cause.kind, (cause.shown settings).cause⟩ =
        PlainCause.shown (settings.withPassword other)
          ⟨cause.kind, (cause.shown (settings.withPassword other)).cause⟩
      rw [← hshown, hplain]
      exact hshown
  | talk fault =>
      have habsent : settings.password.IsAbsent [(settings.plainCause fault).text] := h
      have habsent' : other.IsAbsent [(settings.plainCause fault).text] := h'
      exact PlainCause.shown_withPassword habsent habsent'

/-! ## Two runs -/

/-- Outcomes that cannot be told apart by value and events, with related worlds. -/
structure SameOutcome {ω ω' : Type} (R : ω → ω' → Prop) (done : Outcome ω α)
    (done' : Outcome ω' α) : Prop where
  value : done.value = done'.value
  world : R done.world done'.world
  events : done.events = done'.events

namespace SameOutcome

variable {ω ω' β : Type} {R Q : ω → ω' → Prop}

theorem of_alike {act : Act ω α} {act' : Act ω' α} (h : Act.Alike R Eq act act') {world : ω}
    {world' : ω'} (hR : R world world') : SameOutcome R (act.run world) (act'.run world') := by
  obtain ⟨hvalue, hworld, hevents⟩ := h world world' hR
  exact ⟨hvalue, hworld, hevents⟩

/-- What goes on from the same value goes on alike. -/
theorem bind {act : Act ω α} {act' : Act ω' α} {next : α → Act ω β} {next' : α → Act ω' β}
    {world : ω} {world' : ω'} (h : SameOutcome R (act.run world) (act'.run world'))
    (hnext : SameOutcome Q ((next (act.run world).value).run (act.run world).world)
      ((next' (act.run world).value).run (act'.run world').world)) :
    SameOutcome Q ((act >>= next).run world) ((act' >>= next').run world') := by
  rw [Act.run_bind, Act.run_bind, ← h.value, ← h.events, ← hnext.events]
  exact ⟨hnext.value, hnext.world, rfl⟩

theorem map {act : Act ω α} {act' : Act ω' α} {world : ω} {world' : ω'} (f : α → β)
    (h : SameOutcome R (act.run world) (act'.run world')) :
    SameOutcome R ((do return f (← act)).run world) ((do return f (← act')).run world') :=
  h.bind ⟨rfl, h.world, rfl⟩

theorem onFirst {act : Act ω α} {act' : Act ω' α} {world : ω} {world' : ω'}
    (h : SameOutcome R (act.run world) (act'.run world')) (records : τ) :
    SameOutcome (fun done done' => R done.1 done'.1 ∧ done.2 = done'.2)
      ((Act.onFirst act).run (world, records)) ((Act.onFirst act').run (world', records)) :=
  ⟨h.value, ⟨h.world, rfl⟩, h.events⟩

/-- Errors that are shown the same. -/
theorem showing {ε' : Type} {act : Act ω (Except ε α)} {act' : Act ω' (Except ε α)}
    {f f' : ε → ε'} {world : ω} {world' : ω'}
    (h : SameOutcome R (act.run world) (act'.run world'))
    (hshown : ∀ e, (act.run world).value = .error e → f e = f' e) :
    SameOutcome R ((act.showing f).run world) ((act'.showing f').run world') := by
  rw [Act.run_showing, Act.run_showing]
  refine ⟨?_, h.world, h.events⟩
  dsimp only
  rw [← h.value]
  cases hvalue : (act.run world).value with
  | ok a => rfl
  | error e => exact congrArg Except.error (hshown e hvalue)

end SameOutcome

theorem Secret.isAbsent_append {secret : Secret} {texts texts' : List String} :
    secret.IsAbsent (texts ++ texts') ↔ secret.IsAbsent texts ∧ secret.IsAbsent texts' :=
  List.forall_mem_append

theorem Secret.IsAbsent.of_mem {secret : Secret} {connections : Option GraphConnection}
    {texts : GraphConnection → List String} (h : secret.IsAbsent (connections.toList.flatMap texts))
    {connection : GraphConnection} (hconnection : connection ∈ connections) :
    secret.IsAbsent (texts connection) := by
  intro text htext
  exact h text (List.mem_flatMap.mpr ⟨connection, Option.mem_toList.mpr hconnection, htext⟩)

theorem Secret.IsAbsent.of_error {secret : Secret} {texts : ε → List String}
    {result : Except ε α} {e : ε}
    (h : secret.IsAbsent (errorTexts texts result)) (he : result = .error e) :
    secret.IsAbsent (texts e) := by
  rw [he] at h
  exact h

namespace GraphConnection

variable {connection connection' : GraphConnection} {net net' : BoltNet}

/-- **To read comes to the same on twins** if neither password is in the texts. -/
theorem same_read (statement : String)
    (h : ConnectionTwins settings other (connection, net) (connection', net'))
    (habsent : settings.password.IsAbsent
      (GraphOperation.textsOfReading statement connection net))
    (habsent' : other.IsAbsent (GraphOperation.textsOfReading statement connection' net')) :
    SameOutcome (ConnectionTwins settings other) ((read statement).run (connection, net))
      ((read statement).run (connection', net')) := by
  have hplain := SameOutcome.of_alike (alike_plainRead statement) h
  rw [run_read, run_read, h.1.belongs, h.1.belongs']
  apply hplain.showing
  intro fault hfault
  apply PlainFault.stepFailure_withPassword
  · exact habsent.of_error hfault
  · exact habsent'.of_error (hplain.value.symm.trans hfault)

/-- **To ping comes to the same on twins** if neither password is in the texts. -/
theorem same_ping (h : ConnectionTwins settings other (connection, net) (connection', net'))
    (habsent : settings.password.IsAbsent
      (errorTexts (PlainFault.pingTexts settings) (plainPing.run (connection, net)).value))
    (habsent' : other.IsAbsent (errorTexts (PlainFault.pingTexts (settings.withPassword other))
      (plainPing.run (connection', net')).value)) :
    SameOutcome (ConnectionTwins settings other) (ping.run (connection, net))
      (ping.run (connection', net')) := by
  have hplain := SameOutcome.of_alike alike_plainPing h
  rw [run_ping, run_ping, h.1.belongs, h.1.belongs']
  apply hplain.showing
  intro fault hfault
  apply congrArg CheckError.connection
  apply PlainFault.connectionFailure_withPassword
  · exact habsent.of_error hfault
  · exact habsent'.of_error (hplain.value.symm.trans hfault)

end GraphConnection

/-- **To test comes to the same on twins** if neither password is in the texts. -/
theorem Amundsen.same_test (purpose : Purpose τ) (stamp : Timestamp)
    {connection connection' : GraphConnection} {net net' : BoltNet} (records : τ)
    (h : ConnectionTwins settings other (connection, net) (connection', net'))
    (habsent : settings.password.IsAbsent
      (GraphOperation.textsOfReading userQuery connection net))
    (habsent' : other.IsAbsent (GraphOperation.textsOfReading userQuery connection' net')) :
    SameOutcome (fun world world' => ConnectionTwins settings other world.1 world'.1 ∧
        world.2 = world'.2)
      ((connector.test purpose stamp).run ((connection, net), records))
      ((connector.test purpose stamp).run ((connection', net'), records)) := by
  have hreading := GraphConnection.same_read userQuery h habsent habsent'
  rw [run_test, run_test, ← hreading.value, ← hreading.events]
  exact ⟨rfl, ⟨hreading.world, rfl⟩, rfl⟩

/-! ## Operations on twins -/

/-- Worlds of two clients that differ at most in their passwords. -/
structure GraphWorld.Twins (settings : GraphSettings) (other : Secret)
    (world world' : GraphWorld τ) : Prop where
  connections :
    List.Forall₂ (GraphConnection.Twins settings other) world.connections world'.connections
  net : world.net.Twins world'.net
  records : world.records = world'.records

section Lists

variable {R : α → α' → Prop} {xs : List α} {ys : List α'}

theorem forall₂_getElem? (h : List.Forall₂ R xs ys) (number : Nat) :
    (xs[number]? = none ∧ ys[number]? = none) ∨
      ∃ x y, xs[number]? = some x ∧ ys[number]? = some y ∧ R x y := by
  induction h generalizing number with
  | nil => exact .inl ⟨rfl, rfl⟩
  | @cons x y _ _ hxy _ ih =>
      cases number with
      | zero => exact .inr ⟨x, y, rfl, rfl, hxy⟩
      | succ number => exact ih number

theorem forall₂_set (h : List.Forall₂ R xs ys) (number : Nat) {x : α} {y : α'} (hxy : R x y) :
    List.Forall₂ R (xs.set number x) (ys.set number y) := by
  induction h generalizing number with
  | nil => exact .nil
  | cons hhead htail ih =>
      cases number with
      | zero => exact .cons hxy htail
      | succ number => exact .cons hhead (ih number)

end Lists

namespace GraphWorld

variable {world world' : GraphWorld τ}

/-- An act on one of the connections comes to the same if it does on all twins that are meant. -/
theorem same_onConnection (h : world.Twins settings other world') (number : Nat)
    {act : Act ((GraphConnection × BoltNet) × τ) α}
    (hact : ∀ connection ∈ world.connections[number]?,
      ∀ connection' ∈ world'.connections[number]?,
        connection.Twins settings other connection' →
        SameOutcome (fun done done' => ConnectionTwins settings other done.1 done'.1 ∧
            done.2 = done'.2)
          (act.run ((connection, world.net), world.records))
          (act.run ((connection', world'.net), world'.records))) :
    SameOutcome (Twins settings other) ((onConnection number act).run world)
      ((onConnection number act).run world') := by
  rcases forall₂_getElem? h.connections number with
    ⟨hnone, hnone'⟩ | ⟨connection, connection', hsome, hsome', htwins⟩
  · rw [run_onConnection_of_none act hnone, run_onConnection_of_none act hnone']
    exact ⟨rfl, h, rfl⟩
  · rw [run_onConnection_of_some act hsome, run_onConnection_of_some act hsome']
    obtain ⟨hvalue, ⟨⟨hconnection, hnet⟩, hrecords⟩, hevents⟩ :=
      hact connection hsome connection' hsome' htwins
    exact ⟨congrArg some hvalue, ⟨forall₂_set h.connections number hconnection, hnet, hrecords⟩,
      hevents⟩

/-- Acts beside the connections. -/
theorem same_onOutside (h : world.Twins settings other world') {act act' : Act (BoltNet × τ) α}
    (hact : SameOutcome (fun done done' => done.1.Twins done'.1 ∧ done.2 = done'.2)
      (act.run (world.net, world.records)) (act'.run (world'.net, world'.records))) :
    SameOutcome (Twins settings other) ((onOutside act).run world)
      ((onOutside act').run world') :=
  ⟨hact.value, ⟨h.connections, hact.world.1, hact.world.2⟩, hact.events⟩

theorem same_wait (h : world.Twins settings other world') (ms : Nat) :
    SameOutcome (Twins settings other) ((GraphWorld.wait ms).run world)
      ((GraphWorld.wait ms).run world') := by
  refine ⟨rfl, ⟨h.connections, ?_, h.records⟩, rfl⟩
  exact ⟨h.net.peer, h.net.seen, h.net.links, h.net.files, congrArg (· + ms) h.net.nowMs⟩

end GraphWorld

namespace GraphOperation

section Connecting

variable {net net' : BoltNet}

/-- How connecting ends for both clients: for the same cause, or with twins. -/
theorem plainConnect_twins (h : net.Twins net') :
    ∃ after after' events, after.Twins after' ∧
      ((∃ cause,
          (GraphConnection.plainConnect settings).run net = ⟨.error cause, after, events⟩ ∧
          (GraphConnection.plainConnect (settings.withPassword other)).run net' =
            ⟨.error cause, after', events⟩) ∨
        ∃ connection connection', connection.Twins settings other connection' ∧
          (GraphConnection.plainConnect settings).run net = ⟨.ok connection, after, events⟩ ∧
          (GraphConnection.plainConnect (settings.withPassword other)).run net' =
            ⟨.ok connection', after', events⟩) := by
  obtain ⟨hresult, hworld, hevents⟩ := GraphConnection.alike_plainConnect net net' h
  generalize (GraphConnection.plainConnect settings).run net = done at hresult hworld hevents ⊢
  generalize (GraphConnection.plainConnect (settings.withPassword other)).run net' = done'
    at hresult hworld hevents ⊢
  obtain ⟨result, after, events⟩ := done
  obtain ⟨result', after', _⟩ := done'
  obtain rfl := hevents
  refine ⟨after, after', events, hworld, ?_⟩
  cases hresult with
  | error cause => exact .inl ⟨cause, rfl, rfl⟩
  | ok hconnection => exact .inr ⟨_, _, hconnection, rfl, rfl⟩

end Connecting

theorem run_onNet_connect {world : GraphWorld τ} {result : Except PlainCause GraphConnection}
    {after : BoltNet} {events : List Event}
    (h : (GraphConnection.plainConnect settings).run world.net = ⟨result, after, events⟩) :
    (GraphWorld.onNet (GraphConnection.connect settings)).run world =
      ⟨result.mapError (·.shown settings), { world with net := after }, events⟩ := by
  show Outcome.mk _ _ _ = _
  rw [GraphConnection.run_connect h]

variable {world world' : GraphWorld τ}

theorem same_perform_connect (h : world.Twins settings other world')
    (habsent : settings.password.IsAbsent (texts settings (connect : GraphOperation τ) world))
    (habsent' : other.IsAbsent
      (texts (settings.withPassword other) (connect : GraphOperation τ) world')) :
    SameOutcome (GraphWorld.Twins settings other) ((perform settings connect).run world)
      ((perform (settings.withPassword other) connect).run world') := by
  unfold perform
  obtain ⟨after, after', events, hafter,
    ⟨cause, hplain, hplain'⟩ | ⟨connection, connection', hconnection, hplain, hplain'⟩⟩ :=
      plainConnect_twins h.net
  · rw [texts, hplain] at habsent
    rw [texts, hplain'] at habsent'
    have hshown : cause.shown settings = cause.shown (settings.withPassword other) :=
      PlainCause.shown_withPassword habsent habsent'
    rw [Act.run_bind_of_run_eq (run_onNet_connect hplain),
      Act.run_bind_of_run_eq (run_onNet_connect hplain')]
    exact ⟨congrArg (GraphAnswer.connected ∘ Except.error) hshown,
      ⟨h.connections, hafter, h.records⟩, rfl⟩
  · rw [Act.run_bind_of_run_eq (run_onNet_connect hplain),
      Act.run_bind_of_run_eq (run_onNet_connect hplain')]
    refine ⟨rfl, ⟨?_, hafter, h.records⟩, rfl⟩
    exact List.rel_append h.connections (.cons hconnection .nil)

theorem same_connectAndTest (purpose : Purpose τ) (stamp : Timestamp) {net net' : BoltNet}
    (records : τ) (h : net.Twins net')
    (habsent : settings.password.IsAbsent
      (textsOfConnectAndTest settings net))
    (habsent' : other.IsAbsent (textsOfConnectAndTest (settings.withPassword other) net')) :
    SameOutcome (fun world world' => world.1.Twins world'.1 ∧ world.2 = world'.2)
      ((Amundsen.connector.connectAndTest settings purpose stamp).run (net, records))
      ((Amundsen.connector.connectAndTest (settings.withPassword other) purpose stamp).run
        (net', records)) := by
  obtain ⟨after, after', events, hafter,
    ⟨cause, hplain, hplain'⟩ | ⟨connection, connection', hconnection, hplain, hplain'⟩⟩ :=
      plainConnect_twins h
  · rw [textsOfConnectAndTest, hplain] at habsent
    rw [textsOfConnectAndTest, hplain'] at habsent'
    have hshown : cause.shown settings = cause.shown (settings.withPassword other) :=
      PlainCause.shown_withPassword habsent habsent'
    have hconnect := GraphConnection.run_connect hplain
    have hconnect' := GraphConnection.run_connect hplain'
    rw [Amundsen.run_connectAndTest_of_error _ purpose stamp records hconnect,
      Amundsen.run_connectAndTest_of_error _ purpose stamp records hconnect']
    exact ⟨congrArg (Except.error ∘ CheckError.connection) hshown, ⟨hafter, rfl⟩, rfl⟩
  · rw [textsOfConnectAndTest, hplain] at habsent
    rw [textsOfConnectAndTest, hplain'] at habsent'
    have hconnect := GraphConnection.run_connect hplain
    have hconnect' := GraphConnection.run_connect hplain'
    have htest := Amundsen.same_test purpose stamp records ⟨hconnection, hafter⟩ habsent habsent'
    rw [Amundsen.run_connectAndTest_of_ok _ purpose stamp records hconnect,
      Amundsen.run_connectAndTest_of_ok _ purpose stamp records hconnect']
    obtain ⟨⟨htwins, hnet⟩, hrecords⟩ := htest.world
    refine ⟨htest.value, ⟨hnet, hrecords⟩, ?_⟩
    dsimp only
    rw [htest.events, htwins.belongs, htwins.belongs']
    rfl

/-- **One operation comes to the same for both clients** if neither password is in the texts. -/
theorem same_perform (operation : GraphOperation τ) (h : world.Twins settings other world')
    (habsent : settings.password.IsAbsent (operation.texts settings world))
    (habsent' : other.IsAbsent (operation.texts (settings.withPassword other) world')) :
    SameOutcome (GraphWorld.Twins settings other) ((operation.perform settings).run world)
      ((operation.perform (settings.withPassword other)).run world') := by
  cases operation with
  | connect => exact same_perform_connect h habsent habsent'
  | read number statement =>
      rw [texts] at habsent habsent'
      refine SameOutcome.map _ (GraphWorld.same_onConnection h number ?_)
      intro connection hconnection connection' hconnection' htwins
      have htexts := habsent.of_mem hconnection
      have htexts' := habsent'.of_mem hconnection'
      have hread := GraphConnection.same_read statement ⟨htwins, h.net⟩ htexts htexts'
      rw [← h.records]
      exact hread.onFirst world.records
  | ping number =>
      rw [texts] at habsent habsent'
      refine SameOutcome.map _ (GraphWorld.same_onConnection h number ?_)
      intro connection hconnection connection' hconnection' htwins
      have htexts := habsent.of_mem hconnection
      have htexts' := habsent'.of_mem hconnection'
      rw [htwins.belongs] at htexts
      rw [htwins.belongs'] at htexts'
      have hping := GraphConnection.same_ping ⟨htwins, h.net⟩ htexts htexts'
      rw [← h.records]
      exact hping.onFirst world.records
  | test number purpose stamp =>
      rw [texts] at habsent habsent'
      refine SameOutcome.map _ (GraphWorld.same_onConnection h number ?_)
      intro connection hconnection connection' hconnection' htwins
      have htexts := habsent.of_mem hconnection
      have htexts' := habsent'.of_mem hconnection'
      rw [← h.records]
      exact Amundsen.same_test purpose stamp world.records ⟨htwins, h.net⟩ htexts htexts'
  | connectAndTest purpose stamp =>
      rw [texts] at habsent habsent'
      refine SameOutcome.map _ (GraphWorld.same_onOutside h ?_)
      rw [← h.records]
      exact same_connectAndTest purpose stamp world.records h.net habsent habsent'
  | wait ms => exact (GraphWorld.same_wait h ms).bind ⟨rfl, (GraphWorld.same_wait h ms).world, rfl⟩

/-- **So do operations one after another.** The induction is on the operations; what it needs of
the rest is asked of the worlds in which the first one leaves the two clients. -/
theorem same_performAll (operations : List (GraphOperation τ))
    (h : world.Twins settings other world')
    (habsent : settings.password.IsAbsent (textsOfAll settings operations world))
    (habsent' : other.IsAbsent (textsOfAll (settings.withPassword other) operations world')) :
    SameOutcome (GraphWorld.Twins settings other) ((performAll settings operations).run world)
      ((performAll (settings.withPassword other) operations).run world') := by
  induction operations generalizing world world' with
  | nil => exact ⟨rfl, h, rfl⟩
  | cons operation rest ih =>
      rw [textsOfAll, Secret.isAbsent_append] at habsent habsent'
      have hfirst := operation.same_perform h habsent.1 habsent'.1
      have hrest := ih hfirst.world habsent.2 habsent'.2
      rw [performAll, performAll]
      exact hfirst.bind (hrest.map _)

end GraphOperation

/-- **The password makes no difference.** Of two clients whose settings differ in
the password, and who do the same with the same peer and the same store, all is
the same if each one's password is in none of the texts that are scrubbed for
its answers: how the settings are rendered and what is wrong with them, the
answers, the records and the events. What reached the peer differs in the
passwords of the logins and in nothing else. -/
theorem password_makes_no_difference (settings : GraphSettings) (other : Secret)
    (operations : List (GraphOperation τ)) (net : BoltNet) (records : τ)
    (habsent : settings.password.IsAbsent
      (GraphOperation.textsOfAll settings operations ⟨[], net, records⟩))
    (habsent' : other.IsAbsent
      (GraphOperation.textsOfAll (settings.withPassword other) operations ⟨[], net, records⟩)) :
    let settings' := settings.withPassword other
    let done := (GraphOperation.performAll settings operations).run ⟨[], net, records⟩
    let done' := (GraphOperation.performAll settings' operations).run ⟨[], net, records⟩
    (settings.redacted = settings'.redacted ∧ settings.diagnostic = settings'.diagnostic ∧
        (settings.checked.map fun _ => ()) = settings'.checked.map fun _ => ()) ∧
      (done.value = done'.value ∧ done.world.records = done'.world.records ∧
        done.events = done'.events) ∧
      done.world.net.Twins done'.world.net := by
  intro settings' done done'
  have htwins : GraphWorld.Twins settings other (⟨[], net, records⟩ : GraphWorld τ)
      ⟨[], net, records⟩ := ⟨.nil, .refl net, rfl⟩
  have hsame := GraphOperation.same_performAll operations htwins habsent habsent'
  refine ⟨⟨rfl, rfl, ?_⟩, ⟨hsame.value, hsame.world.records, hsame.events⟩, hsame.world.net⟩
  have hbroken : settings'.brokenFields = settings.brokenFields := rfl
  unfold GraphSettings.checked
  rw [hbroken]
  split
  · rfl
  · rfl

theorem password_makes_no_difference_echoed :
    let settings := echoedSettings "hunter2"
    let other : Secret := ⟨"tr0ub4dor"⟩
    let net := echoingNet "no such label"
    (settings.password.IsAbsent (GraphOperation.textsOfAll settings recordedTest ⟨[], net, {}⟩) ∧
        other.IsAbsent (GraphOperation.textsOfAll (settings.withPassword other) recordedTest
          ⟨[], net, {}⟩)) ∧
      ((GraphOperation.performAll settings recordedTest).run ⟨[], net, {}⟩).value =
        ((GraphOperation.performAll (settings.withPassword other) recordedTest).run
          ⟨[], net, {}⟩).value := by
  intro settings other net
  have habsent : settings.password.IsAbsent
      (GraphOperation.textsOfAll settings recordedTest ⟨[], net, {}⟩) := by
    unfold Secret.IsAbsent
    decide +kernel
  have habsent' : other.IsAbsent
      (GraphOperation.textsOfAll (settings.withPassword other) recordedTest ⟨[], net, {}⟩) := by
    unfold Secret.IsAbsent
    decide +kernel
  obtain ⟨_, ⟨hvalue, _⟩, _⟩ :=
    password_makes_no_difference settings other recordedTest net {} habsent habsent'
  exact ⟨⟨habsent, habsent'⟩, hvalue⟩

end Preflight
