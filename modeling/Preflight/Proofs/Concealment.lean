import Preflight.Proofs.Recording
import Preflight.Proofs.Scrubbing
import Preflight.Proofs.Shown

/-!
# A password is not shown

Every message is a scrubbed text, or the first line of one, cut to a limit, and
scrubbing leaves nothing of a password that has no character of the mask. A cut
puts dots at the end of a text, so a password without a dot is not put together by
it either. This is what messages need (`password_not_in_messages`).

A detail is the diagnostic form of a fault, scrubbed. That form quotes the text of
the server, and what the scan looks for is the password, not its quoted form. So
the password itself is in no detail. But if it is not a part of its own quoted
form, the quoted form is passed over; it stands in the detail of a failure whose
message has the password between enough other characters, by which no find can
reach into it.

## Main results

* `password_not_in_messages` — no message has the password in it.
* `password_quoted_in_details` — no detail has the password in it; none has its quoted
  form exactly if the password is a part of that form.
-/

namespace Preflight

variable {τ : Type}

/-! ## Errors of stores -/

/-- The errors of the store are its own: none is a failure to connect or a failed step. -/
def ReportStore.HasOwnErrors (store : ReportStore τ) : Prop :=
  ∀ target report records error,
    ((store.record target report).run records).value = .error error → error.messages = []

theorem MemoryRecords.hasOwnErrors : MemoryRecords.store.HasOwnErrors := by
  intro target report records error herror
  cases herror

theorem DirectoryStore.hasOwnErrors (store : DirectoryStore) : store.reportStore.HasOwnErrors := by
  have hstage : ∀ record files stage error after,
      store.perform record files stage = (.error error, after) → error.messages = [] := by
    intro record files stage error after h
    unfold perform at h
    cases stage with
    | makeRoot =>
        dsimp only at h
        split at h <;> cases h
        rfl
    | writeDraft =>
        dsimp only at h
        split at h <;> cases h
        rfl
    | putInPlace =>
        dsimp only at h
        split at h <;> cases h
        rfl
  have hstages : ∀ record todo files error,
      (store.performAll record todo files).1 = .error error → error.messages = [] := by
    intro record todo
    induction todo with
    | nil =>
        intro files error h
        cases h
    | cons stage rest ih =>
        intro files error h
        rw [performAll] at h
        split at h
        · exact ih _ _ h
        · rename_i fault after hperform
          cases h
          exact hstage _ _ _ _ _ hperform
  intro target report files error herror
  have hvalue := store.value_record target report files
  exact hstages _ _ _ _ (hvalue.symm.trans herror)

theorem CatalogStore.hasOwnErrors (store : CatalogStore) : store.reportStore.HasOwnErrors := by
  have hpersist : ∀ request more web error,
      ((persist request more).run web).value = .error error → error.messages = [] := by
    intro request more
    induction more with
    | zero =>
        intro web error h
        rw [persist, Act.run_bind] at h
        cases htry : ((tryOnce request).run web).value with
        | ok _ =>
            rw [htry] at h
            cases h
        | error setback =>
            rw [htry] at h
            cases h
            rfl
    | succ more ih =>
        intro web error h
        rw [persist, Act.run_bind] at h
        cases htry : ((tryOnce request).run web).value with
        | ok _ =>
            rw [htry] at h
            cases h
        | error setback =>
            rw [htry] at h
            dsimp only at h
            split at h
            · exact ih _ _ h
            · cases h
              rfl
  intro target report web error herror
  have hrecord : ((store.record target report).run web).value = .error error := herror
  rw [record, Act.run_bind] at hrecord
  cases hrequest : store.request target report with
  | error reason =>
      simp only [hrequest] at hrecord
      cases hrecord
      rfl
  | ok request =>
      simp only [hrequest] at hrecord
      exact hpersist _ _ _ _ hrecord

/-! ## Messages -/

/-- What a password without a point forbids in a text holds of all that is shown. -/
theorem GraphSettings.admits_of_isMaskable {settings : GraphSettings}
    (h : settings.password.IsMaskable) (hpoint : '.' ∉ settings.password.value.toList) :
    settings.Admits (fun text => ¬ settings.password.OccursIn text) (fun _ => True) where
  cause := not_occursIn_scrub h
  message text := not_occursIn_ellipsis h hpoint text GraphConnection.longestMessage
  detail _ := trivial

theorem ReportStore.HasOwnErrors.speaks {store : ReportStore τ} (h : store.HasOwnErrors)
    (M : String → Prop) : store.Speaks M := by
  intro target report records error herror text htext
  rw [h target report records error herror] at htext
  cases htext

/-- **No message has the password in it.** Whatever the peer says and whatever a
client does, neither the cause of a failure to connect nor the message of a
failed step has the password in it, if it has neither stars nor points; and
neither have the messages of the reports that are recorded. These are seen in a
store that writes down what it is given, from which nothing else comes. -/
theorem password_not_in_messages (settings : GraphSettings)
    (hmaskable : settings.password.IsMaskable)
    (hpoint : '.' ∉ settings.password.value.toList) (operations : List (GraphOperation τ))
    (hstores : ∀ operation ∈ operations, ∀ store ∈ operation.store?, store.HasOwnErrors)
    (net : BoltNet) (records : τ) :
    let plain := (GraphOperation.performAll settings operations).run ⟨[], net, records⟩
    let noted := (GraphOperation.performAll settings (operations.map .logged)).run
      ⟨[], net, (records, [])⟩
    (noted.value = plain.value ∧ noted.world.records.1 = plain.world.records) ∧
      (∀ answer ∈ plain.value, ∀ text ∈ answer.messages, ¬ settings.password.OccursIn text) ∧
      ∀ call ∈ noted.world.records.2, ∀ text ∈ call.2.messages,
        ¬ settings.password.OccursIn text := by
  intro plain noted
  have hspeaks : ∀ operation ∈ operations, ∀ store ∈ operation.store?,
      store.Speaks fun text => ¬ settings.password.OccursIn text :=
    fun operation hoperation store hstore => (hstores operation hoperation store hstore).speaks _
  obtain ⟨hnoted, hanswers, hcalls⟩ := GraphOperation.satisfies_logged
    (settings.admits_of_isMaskable hmaskable hpoint) hspeaks net records
  exact ⟨hnoted, fun answer hanswer => (hanswers answer hanswer).message,
    fun call hcall => (hcalls call hcall).message⟩

/-- A peer that can be reached, and says `text` to the second statement. -/
def echoingNet (text : String) : BoltNet where
  peer := some
    { host := "localhost"
      port := 7687
      replies :=
        [(.statement, .done),
         (.statement, .failure (some "Neo.ClientError.Statement.SyntaxError") text)] }

/-- Settings for this peer. -/
def echoedSettings (password : String) : GraphSettings where
  hostPort := "localhost:7687"
  username := "neo4j"
  password := ⟨password⟩

/-- A test for a workflow, the second statement of which is the one of its check. -/
def recordedTest : List (GraphOperation MemoryRecords) :=
  [.connect, .test 0 (.workflow ⟨⟨1⟩, "nightly"⟩ MemoryRecords.store) .epoch]

theorem password_not_in_messages_echoed :
    let settings := echoedSettings "hunter2"
    let plain := (GraphOperation.performAll settings recordedTest).run
      ⟨[], echoingNet "hunter2 or hunter2?", {}⟩
    (settings.password.IsMaskable ∧ '.' ∉ settings.password.value.toList ∧
        ∀ operation ∈ recordedTest, ∀ store ∈ operation.store?, store.HasOwnErrors) ∧
      plain.value.flatMap GraphAnswer.messages =
        ["Neo4j error `Neo.ClientError.Statement.SyntaxError`: ********** or **********?"] ∧
      ∀ answer ∈ plain.value, ∀ text ∈ answer.messages, ¬ settings.password.OccursIn text := by
  intro settings plain
  have hmaskable : settings.password.IsMaskable := ⟨by decide, by decide⟩
  have hpoint : '.' ∉ settings.password.value.toList := by decide
  have hstores : ∀ operation ∈ recordedTest, ∀ store ∈ operation.store?, store.HasOwnErrors := by
    simp [recordedTest, GraphOperation.store?, Purpose.store?, MemoryRecords.hasOwnErrors]
  obtain ⟨_, hanswers, _⟩ := password_not_in_messages settings hmaskable hpoint recordedTest
    hstores (echoingNet "hunter2 or hunter2?") {}
  exact ⟨⟨hmaskable, hpoint, hstores⟩, by decide +kernel, hanswers⟩

/-! ## Details -/

/-- The quoted form of the secret is somewhere in the text. -/
def Secret.OccursQuotedIn (secret : Secret) (text : String) : Prop :=
  Text.escapeChars secret.value.toList <:+: text.toList

instance (secret : Secret) (text : String) : Decidable (secret.OccursQuotedIn text) :=
  decidable_of_iff _ Text.contains_eq_true_iff

/-- The secret is a part of its quoted form, as it is if it is quoted as itself. -/
def Secret.IsInQuoted (secret : Secret) : Prop :=
  secret.value.toList <:+: Text.escapeChars secret.value.toList

/-- The diagnostic form of a server error has the message in its quoted form. -/
theorem ServerError.exists_diagnostic_eq (code : String) :
    ∃ before after, ∀ message, (ServerError.diagnostic ⟨code, message⟩).toList =
      before ++ (Text.escapeChars message.toList ++ after) := by
  refine ⟨("Neo4j(Neo4jError \x7b kind: " ++ (ServerErrorClass.ofCode code).label ++ ", code: " ++
    Text.quoted code ++ ", message: ").toList ++ ['"'], '"' :: " \x7d)".toList, ?_⟩
  intro message
  unfold ServerError.diagnostic Text.quoted
  simp only [String.toList_append, String.toList_ofList, List.append_assoc, List.cons_append,
    List.nil_append]

/-- **A password that is not in its quoted form is shown in it**, to whoever reads the detail of a
failure that has the password in its message. -/
theorem exists_quoted_in_detail {settings : GraphSettings}
    (hmaskable : settings.password.IsMaskable) (hquoted : ¬ settings.password.IsInQuoted)
    (code : String) :
    ∃ message, settings.password.OccursIn message ∧
      ∃ detail ∈ (GraphConnection.stepFailure settings (.server ⟨code, message⟩)).detail,
        settings.password.OccursQuotedIn detail := by
  let piece := settings.password.value.toList
  obtain ⟨c, hplain, hhead, hlast⟩ := Text.exists_plainChar piece
  let padding := List.replicate piece.length c
  obtain ⟨before, after, hdiagnostic⟩ := ServerError.exists_diagnostic_eq code
  refine ⟨String.ofList (padding ++ piece ++ padding), ?_, _, rfl, ?_⟩
  · rw [Secret.OccursIn, String.toList_ofList]
    exact ⟨padding, padding, rfl⟩
  · have hpadding : Text.escapeChars padding = padding := Text.escapeChars_replicate hplain _
    rw [Secret.OccursQuotedIn, toList_scrub hmaskable.nonempty]
    show _ <:+: Text.replaceAll piece _ (ServerError.diagnostic ⟨code, _⟩).toList
    rw [hdiagnostic, String.toList_ofList, Text.escapeChars_append, Text.escapeChars_append,
      hpadding, List.append_assoc, List.append_assoc, ← List.append_assoc before]
    apply Text.infix_replaceAll
    · exact Text.not_straddles_of_padded_left hhead le_rfl
    · exact Text.not_straddles_of_padded_right hlast le_rfl
    · exact hquoted

/-- What holds of all details. -/
theorem GraphSettings.admits_details {settings : GraphSettings}
    (h : settings.password.IsMaskable) :
    settings.Admits (fun _ => True) fun text => ¬ settings.password.OccursIn text ∧
      (settings.password.IsInQuoted → ¬ settings.password.OccursQuotedIn text) where
  cause _ := trivial
  message _ := trivial
  detail text := by
    have hscrubbed := not_occursIn_scrub h text
    exact ⟨hscrubbed, fun hquoted hoccurs => hscrubbed (hquoted.trans hoccurs)⟩

/-- **What details show of a password.** No detail that an operation answers with
or has recorded has the password in it. Its quoted form is in none of them if the
password is a part of that form; if it is not, then for each code of an error
there is a message by which the quoted password comes into the detail. -/
theorem password_quoted_in_details (settings : GraphSettings)
    (hmaskable : settings.password.IsMaskable) :
    (∀ (τ : Type) (operations : List (GraphOperation τ)) (net : BoltNet) (records : τ),
      let plain := (GraphOperation.performAll settings operations).run ⟨[], net, records⟩
      let noted := (GraphOperation.performAll settings (operations.map .logged)).run
        ⟨[], net, (records, [])⟩
      (noted.value = plain.value ∧ noted.world.records.1 = plain.world.records) ∧
        ∀ text ∈ plain.value.flatMap GraphAnswer.details ++
            noted.world.records.2.flatMap (fun call => call.2.details),
          ¬ settings.password.OccursIn text ∧
            (settings.password.IsInQuoted → ¬ settings.password.OccursQuotedIn text)) ∧
    ∀ code,
      (∀ message, settings.password.OccursIn message →
        ∀ detail ∈ (GraphConnection.stepFailure settings (.server ⟨code, message⟩)).detail,
          ¬ settings.password.OccursQuotedIn detail) ↔ settings.password.IsInQuoted := by
  have hadmits := settings.admits_details hmaskable
  refine ⟨?_, ?_⟩
  · intro τ operations net records plain noted
    have hspeaks : ∀ operation ∈ operations, ∀ store ∈ operation.store?,
        store.Speaks fun _ => True := by
      intro operation _ store _ target report records error _ text _
      trivial
    obtain ⟨hnoted, hanswers, hcalls⟩ :=
      GraphOperation.satisfies_logged hadmits hspeaks net records
    refine ⟨hnoted, ?_⟩
    intro text htext
    rcases List.mem_append.mp htext with htext | htext
    · obtain ⟨answer, hanswer, htext⟩ := List.mem_flatMap.mp htext
      exact (hanswers answer hanswer).detail text htext
    · obtain ⟨call, hcall, htext⟩ := List.mem_flatMap.mp htext
      exact (hcalls call hcall).detail text htext
  · intro code
    constructor
    · intro hhidden
      by_contra hquoted
      obtain ⟨message, hmessage, detail, hdetail, hoccurs⟩ :=
        exists_quoted_in_detail hmaskable hquoted code
      exact hhidden message hmessage detail hdetail hoccurs
    · intro hquoted message _ detail hdetail
      obtain rfl := Option.some.inj hdetail
      exact (hadmits.detail _).2 hquoted

theorem password_quoted_in_details_withQuote :
    (echoedSettings "p\"w").password.IsMaskable ∧
      ¬ (echoedSettings "p\"w").password.IsInQuoted ∧
      ¬ ∀ message, (echoedSettings "p\"w").password.OccursIn message →
        ∀ detail ∈ (GraphConnection.stepFailure (echoedSettings "p\"w")
          (.server ⟨"Neo.ClientError.Statement.SyntaxError", message⟩)).detail,
          ¬ (echoedSettings "p\"w").password.OccursQuotedIn detail := by
  have hmaskable : (echoedSettings "p\"w").password.IsMaskable := ⟨by decide, by decide⟩
  have hquoted : ¬ (echoedSettings "p\"w").password.IsInQuoted := by
    unfold Secret.IsInQuoted
    rw [← Text.contains_eq_true_iff]
    decide +kernel
  obtain ⟨_, hdetails⟩ := password_quoted_in_details (echoedSettings "p\"w") hmaskable
  exact ⟨hmaskable, hquoted, fun hhidden => hquoted ((hdetails _).mp hhidden)⟩

/-- A password with a quote in it, which a server repeats: the detail that is answered and recorded
shows it with a backslash. -/
theorem quoted_password_is_recorded :
    let settings := echoedSettings "p\"w"
    let done := (GraphOperation.performAll settings recordedTest).run
      ⟨[], echoingNet "bad p\"w", {}⟩
    let detail := "Neo4j(Neo4jError \x7b kind: Client(Other), code: " ++
      "\"Neo.ClientError.Statement.SyntaxError\", message: \"bad p\\\"w\" \x7d)"
    settings.password.IsMaskable ∧ settings.password.OccursIn "bad p\"w" ∧
      (done.value.flatMap GraphAnswer.details = [detail] ∧
        (done.world.records.get? ⟨1⟩).map (fun record => record.response.details) =
          some [detail]) ∧
      settings.password.OccursQuotedIn detail := by
  intro settings done detail
  have hmaskable : settings.password.IsMaskable := ⟨by decide, by decide⟩
  have hrepeated : settings.password.OccursIn "bad p\"w" := by decide
  have hquoted : settings.password.OccursQuotedIn detail := by decide
  exact ⟨hmaskable, hrepeated, by decide +kernel, hquoted⟩

end Preflight
