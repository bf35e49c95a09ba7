import Preflight.Proofs.Renewal

/-!
# Messages that fit on a line

The message of a statement that failed is to be shown beside it, so it is one line of
bounded length. The peer may send any text; the first line of it is taken and cut.

A statement may also fail before it is sent, when its session is too old and no new one
can be opened. What is told then is the cause of the refusal, and nobody has cut it: it
is the whole text of the peer, and only the password is scrubbed from it. So whether a
message fits depends on how far the read has come (`GraphConnection.ReadFailure`).

## Main results

* `GraphConnection.fits_stepFailure` — the message of a failed statement fits.
* `GraphOperation.read_failure_by_age` — what is told about a failed read, after any
  operations.
* `GraphOperation.refused_renewal_is_not_cut` — a message of two lines.
-/

namespace Preflight

variable {τ : Type}

namespace Text

/-- The text is one line of at most `limit` characters. -/
def FitsLine (limit : Nat) (text : String) : Prop :=
  text.length ≤ limit ∧ '\n' ∉ text.toList

theorem mem_cut {c : Char} {cs : List Char} {limit : Nat} (h : c ∈ cut cs limit) :
    c ∈ cs ∨ c = '.' := by
  obtain ⟨kept, count, hkept, hcut⟩ := exists_cut_eq cs limit
  rw [hcut] at h
  rcases List.mem_append.mp h with hmem | hdot
  · exact .inl (hkept.subset hmem)
  · exact .inr (List.eq_of_mem_replicate hdot)

/-- The first line of a text, cut to a limit, fits on a line. -/
theorem fitsLine_ellipsis_firstLine (text : String) (limit : Nat) :
    FitsLine limit (ellipsis (firstLine text) limit) := by
  unfold FitsLine ellipsis firstLine
  rw [String.length_ofList, String.toList_ofList, String.toList_ofList]
  refine ⟨length_cut_le _ limit, fun h => ?_⟩
  rcases mem_cut h with hline | hdot
  · exact not_mem_firstLineChars _ hline
  · exact absurd hdot (by decide)

end Text

namespace GraphConnection

/-- The message of a failed statement fits, whatever the peer has sent. -/
theorem fits_stepFailure (settings : GraphSettings) (fault : BoltFault) :
    Text.FitsLine longestMessage (stepFailure settings fault).message :=
  Text.fitsLine_ellipsis_firstLine _ longestMessage

/-- What a failed read tells, by how far it has come.

* If there is a session to be used, the statement has failed: the message fits.
* If the session is too old and none can be opened, the message is the cause of that, whole. -/
structure ReadFailure (connection : GraphConnection) (net : BoltNet) (failure : StepFailure) :
    Prop where
  young : connection.isExpired net.nowMs = false →
    Text.FitsLine longestMessage failure.message ∧
      ∃ fault, failure = stepFailure connection.settings fault
  renewed : connection.isExpired net.nowMs = true → ∀ session,
    ((openSession connection.settings).run net).value = .ok session →
      Text.FitsLine longestMessage failure.message ∧
        ∃ fault, failure = stepFailure connection.settings fault
  refused : connection.isExpired net.nowMs = true → ∀ refusal,
    ((openSession connection.settings).run net).value = .error refusal →
      failure = ⟨refusal.kind, refusal.cause, none⟩ ∧
        ∃ cause, ((plainSession connection.settings).run net).value = .error cause ∧
          failure.message = scrub cause.text [connection.settings.password]

section Reading

variable {connection : GraphConnection} {net : BoltNet} {statement : String}
  {failure : StepFailure}

/-- On a session that can be used, only the statement can fail. -/
theorem fits_of_refresh_ok (hrefresh : (refresh.run (connection, net)).value = .ok ())
    (h : ((read statement).run (connection, net)).value = .error failure) :
    Text.FitsLine longestMessage failure.message ∧
      ∃ fault, failure = stepFailure connection.settings fault := by
  rw [((uses_read statement connection net).of_refresh_ok hrefresh).1] at h
  cases htalk : ((talk (BoltPool.rowCount statement)).run
      (refresh.run (connection, net)).world).value with
  | ok rows =>
      rw [htalk] at h
      cases h
  | error fault =>
      rw [htalk] at h
      obtain rfl : stepFailure connection.settings fault = failure := Except.error.inj h
      exact ⟨fits_stepFailure _ fault, fault, rfl⟩

/-- A failure to open a session tells the whole cause. -/
theorem exists_cause_of_refused {settings : GraphSettings} {refusal : ConnectionFailure}
    (h : ((openSession settings).run net).value = .error refusal) :
    ∃ cause, ((plainSession settings).run net).value = .error cause ∧
      refusal.cause = scrub cause.text [settings.password] := by
  rw [openSession_eq, Act.run_showing] at h
  cases hplain : ((plainSession settings).run net).value with
  | ok session =>
      rw [hplain] at h
      cases h
  | error cause =>
      rw [hplain] at h
      obtain rfl : cause.shown settings = refusal := Except.error.inj h
      exact ⟨cause, rfl, rfl⟩

/-- **What a failed read tells goes by the age of the session.** -/
theorem readFailure_of_read
    (h : ((read statement).run (connection, net)).value = .error failure) :
    connection.ReadFailure net failure where
  young := by
    intro hyoung
    exact fits_of_refresh_ok (by rw [run_refresh_of_young hyoung]) h
  renewed := by
    intro hexpired session hsession
    refine fits_of_refresh_ok ?_ h
    rw [(refresh_of_expired hexpired).1, hsession]
    rfl
  refused := by
    intro hexpired refusal hrefusal
    have hrefresh := (GraphUse.refresh_of_refused hexpired hrefusal).1
    rw [((uses_read statement connection net).of_refresh_error refusal hrefresh).1] at h
    obtain rfl : ⟨refusal.kind, refusal.cause, none⟩ = failure := Except.error.inj h
    exact ⟨rfl, exists_cause_of_refused hrefusal⟩

end Reading

end GraphConnection

namespace GraphOperation

/-- A failed read is one on a connection that is there. -/
theorem exists_read_of_counted {settings : GraphSettings} {number : Nat} {statement : String}
    {world : GraphWorld τ} {failure : StepFailure}
    (h : (((GraphOperation.read number statement).perform settings).run world).value =
      .counted (.error failure)) :
    ∃ connection, world.connections[number]? = some connection ∧
      ((GraphConnection.read statement).run (connection, world.net)).value = .error failure := by
  rw [perform, Act.run_bind] at h
  cases hthere : world.connections[number]? with
  | none =>
      rw [GraphWorld.run_onConnection_of_none _ hthere] at h
      cases h
  | some connection =>
      rw [GraphWorld.run_onConnection_of_some _ hthere] at h
      exact ⟨connection, rfl, GraphAnswer.counted.inj h⟩

/-- **The message of a failed read fits on a line, unless an old session could not be renewed**,
whatever a client has done before, whatever the peer says, and however old the session is. A
refused renewal is told by its cause, as long as it is. -/
theorem read_failure_by_age (settings : GraphSettings) (before : List (GraphOperation τ))
    (net : BoltNet) (records : τ) (number : Nat) (statement : String) {failure : StepFailure}
    (h : (((GraphOperation.read number statement).perform settings).run
      ((performAll settings before).run ⟨[], net, records⟩).world).value =
        .counted (.error failure)) :
    let world := ((performAll settings before).run ⟨[], net, records⟩).world
    ∃ connection, world.connections[number]? = some connection ∧
      connection.settings = settings ∧ connection.ReadFailure world.net failure := by
  intro world
  obtain ⟨connection, hthere, hread⟩ := exists_read_of_counted h
  have hsound : GraphWorld.Sound settings world := sound_performAll before ⟨[], net, records⟩ nofun
  exact ⟨connection, hthere, (hsound connection (List.mem_of_getElem? hthere)).belongs,
    GraphConnection.readFailure_of_read hread⟩

theorem read_failure_by_age_young :
    let settings := echoedSettings "hunter2"
    let world := ((performAll settings [.connect]).run ⟨[], echoingNet "first\nsecond", ()⟩).world
    let message := "Neo4j error `Neo.ClientError.Statement.SyntaxError`: first"
    ∃ failure, (((GraphOperation.read 0 "RETURN 1").perform settings).run world).value =
        .counted (.error failure) ∧
      failure.message = message ∧ Text.FitsLine GraphConnection.longestMessage message := by
  intro settings world message
  have hanswer : (((GraphOperation.read 0 "RETURN 1").perform settings).run world).value =
      .counted (.error ⟨.query, message, some (
        "Neo4j(Neo4jError \x7b kind: Client(Other), code: " ++
        "\"Neo.ClientError.Statement.SyntaxError\", message: \"first\\nsecond\" \x7d)")⟩) := by
    decide +kernel
  obtain ⟨connection, hthere, -, hfailure⟩ := read_failure_by_age settings [.connect]
    (echoingNet "first\nsecond") () 0 "RETURN 1" hanswer
  have hyoung : world.connections[0]?.map (·.isExpired world.net.nowMs) = some false := by
    decide +kernel
  have hage : connection.isExpired world.net.nowMs = false := by
    rw [hthere] at hyoung
    exact Option.some.inj hyoung
  exact ⟨_, hanswer, rfl, (hfailure.young hage).1⟩

/-- A peer that lets its client in once and then refuses it in two lines. -/
def refusingNet : BoltNet where
  peer := some
    { host := "localhost"
      port := 7687
      replies := [(.hello, .done), (.hello, .failure none "first line\nsecond line")] }

/-- The cause of a refused renewal is told in two lines if the peer tells it so. -/
theorem refused_renewal_is_not_cut :
    let settings := restlessSettings "hunter2"
    let world := ((performAll settings [.connect]).run ⟨[], refusingNet, ()⟩).world
    ∃ failure, (((GraphOperation.read 0 "RETURN 1").perform settings).run world).value =
        .counted (.error failure) ∧
      ¬Text.FitsLine GraphConnection.longestMessage failure.message := by
  intro settings world
  have hanswer : (((GraphOperation.read 0 "RETURN 1").perform settings).run world).value =
      .counted (.error ⟨.authentication, "first line\nsecond line", none⟩) := by
    decide +kernel
  have hbreak : '\n' ∈ "first line\nsecond line".toList := by decide +kernel
  exact ⟨_, hanswer, fun hfits => hfits.2 hbreak⟩

end GraphOperation

end Preflight
