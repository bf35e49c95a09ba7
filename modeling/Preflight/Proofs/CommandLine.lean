import Preflight.Command
import Preflight.Proofs.Handover
import Preflight.Proofs.Plain
import Preflight.Proofs.Using

/-!
# What the command line promises

What is seen of a command, its exit status, what it writes and what it leaves
behind, is made of stages that each may fail: the variables are read, a place for
the report is chosen, a connection opens, a statement is answered and the report
is delivered. Only the last one depends on the purpose. So the stages up to the
answer are dealt with once, for every purpose, and what follows is a matter of the
answer: inline it decides, and for a workflow the store alone does.

The report that is written out is the one the store was handed. Both are read back
to the millisecond, from the output and from what the store keeps.

## Main results

* `Command.perform_of_unusable` — variables that make no sense are without effect.
* `Command.perform_of_answered`, `Command.exitStatus_eq_zero_iff` — a command is as good
  as the delivery of its report, if there is one.
* `Command.command_line_contract` — what is seen of a command.
-/

namespace Preflight

theorem Act.run_onSecond {ω τ α : Type} (act : Act τ α) (other : ω) (world : τ) :
    (Act.onSecond act).run (other, world) =
      ⟨(act.run world).value, (other, (act.run world).world), (act.run world).events⟩ := rfl

namespace Amundsen

/-- A connection opens, and this is the answer to the statement of the check on it, be it rows or a
failure. -/
def Answered (settings : GraphSettings) (net : BoltNet) (answer : Except StepFailure Nat) : Prop :=
  let opening := (GraphConnection.connect settings).run net
  ∃ connection, opening.value = .ok connection ∧
    ((GraphConnection.read userQuery).run (connection, opening.world)).value = answer

theorem answered_of_ok {settings : GraphSettings} {net : BoltNet} {connection : GraphConnection}
    (h : ((GraphConnection.connect settings).run net).value = .ok connection) :
    Answered settings net ((GraphConnection.read userQuery).run
      (connection, ((GraphConnection.connect settings).run net).world)).value :=
  ⟨connection, h, rfl⟩

theorem Answered.unique {settings : GraphSettings} {net : BoltNet}
    {answer answer' : Except StepFailure Nat} (h : Answered settings net answer)
    (h' : Answered settings net answer') : answer = answer' := by
  obtain ⟨connection, hopens, rfl⟩ := h
  obtain ⟨connection', hopens', rfl⟩ := h'
  obtain rfl : connection = connection' := Except.ok.inj (hopens.symm.trans hopens')
  rfl

/-- The report on an answer is good if the answer is. -/
theorem isSuccess_accessReport (answer : Except StepFailure Nat) (stamp : Timestamp) :
    (accessReport answer stamp).isSuccess = answer.isOk := by
  cases answer with
  | ok rows => rfl
  | error failure => rfl

theorem inWords_accessReport (answer : Except StepFailure Nat) (stamp : Timestamp) :
    (accessReport answer stamp).InWords := by
  intro result hresult
  obtain rfl : result = accessResult answer := List.mem_singleton.mp hresult
  have helapsed : (accessResult answer).elapsedMs = 0 := by
    cases answer with
    | ok rows => rfl
    | error failure => rfl
  rw [helapsed]
  decide

section Connecting

variable {τ : Type} {settings : GraphSettings} {net : BoltNet} (purpose : Purpose τ)
  (stamp : Timestamp) (records : τ)

/-- With an answer, to connect and test is to deliver the report on it. -/
theorem connectAndTest_of_answered {answer : Except StepFailure Nat}
    (h : Answered settings net answer) :
    let delivery := (purpose.deliver (accessReport answer stamp)).run records
    let done := (connector.connectAndTest settings purpose stamp).run (net, records)
    done.value = delivery.value ∧ done.world.2 = delivery.world := by
  obtain ⟨connection, hopens, hanswer⟩ := h
  intro delivery done
  have hconnect : (GraphConnection.connect settings).run net =
      ⟨.ok connection, ((GraphConnection.connect settings).run net).world,
        ((GraphConnection.connect settings).run net).events⟩ := by
    rw [← hopens]
  have hdone : done = _ := run_connectAndTest_of_ok settings purpose stamp records hconnect
  rw [hdone, run_test, hanswer]
  exact ⟨rfl, rfl⟩

/-- Without an answer, there is no report and nothing to deliver. -/
theorem connectAndTest_of_unanswered (h : ∀ answer, ¬ Answered settings net answer) :
    let done := (connector.connectAndTest settings purpose stamp).run (net, records)
    (∃ error, done.value = .error error) ∧ done.world.2 = records := by
  intro done
  cases hopens : ((GraphConnection.connect settings).run net).value with
  | ok connection => exact absurd (answered_of_ok hopens) (h _)
  | error failure =>
      have hconnect : (GraphConnection.connect settings).run net =
          ⟨.error failure, ((GraphConnection.connect settings).run net).world,
            ((GraphConnection.connect settings).run net).events⟩ := by
        rw [← hopens]
      have hdone : done = _ := run_connectAndTest_of_error settings purpose stamp records hconnect
      rw [hdone]
      exact ⟨⟨_, rfl⟩, rfl⟩

end Connecting

end Amundsen

namespace Command

open Amundsen (Answered accessReport)

/-- The variables of a command: those of its environment, and those of a file. -/
def given (environment : Environment) (files : Files) : GraphSettings.Variables :=
  fun name => (completed environment files).lookup name

/-- The workflow with an identifier, under the name that is given. -/
def target (given : GraphSettings.Variables) (id : Uuid) : Workflow :=
  ⟨id, (given "WORKFLOW_NAME").getD ("test-connection-" ++ id.text)⟩

/-- Variables that make no sense. -/
inductive Unusable (given : GraphSettings.Variables) : Prop where
  | badSettings {error : CheckError} (hsettings : GraphSettings.ofVariables given = .error error)
  | badWorkflowId {raw : String} {fault : UuidFault} (hgiven : given "WORKFLOW_ID" = some raw)
      (hraw : Uuid.parse raw = .error fault)
  | noStore {raw : String} (hgiven : given "WORKFLOW_ID" = some raw)
      (hurl : given "CATALOG_API_URL" = none) (hroot : given "WORKFLOW_STORE_DIR" = none)

/-! ## The purpose -/

section Purposes

variable {given : GraphSettings.Variables} {patience : Patience} {raw : String} {id : Uuid}

theorem purpose_inline (hgiven : given "WORKFLOW_ID" = none) :
    purpose given patience = .ok .inline := by
  simp only [purpose, workflow?, hgiven]
  rfl

theorem purpose_workflow {place : ReportStore (Files × Web)}
    (hgiven : given "WORKFLOW_ID" = some raw) (hraw : Uuid.parse raw = .ok id)
    (hplace : place? given patience = some place) :
    purpose given patience = .ok (.workflow (target given id) place) := by
  simp only [purpose, workflow?, hgiven, hraw, hplace]
  rfl

theorem place_catalog {url : String} (hurl : given "CATALOG_API_URL" = some url) :
    place? given patience = some (catalogPlace
      (CatalogStore.ofAddress url ((given "CATALOG_API_TOKEN").map Secret.mk) patience.times)) := by
  simp only [place?, hurl]

theorem place_directory {root : String} (hurl : given "CATALOG_API_URL" = none)
    (hroot : given "WORKFLOW_STORE_DIR" = some root) :
    place? given patience = some (directoryPlace ⟨root⟩) := by
  simp only [place?, hurl, hroot]

end Purposes

/-! ## Acting -/

section Acting

variable {given : GraphSettings.Variables} (patience : Patience) (stamp : Timestamp)

/-- Variables that make no sense are without effect. -/
theorem act_of_unusable (h : Unusable given) (surroundings : Surroundings) :
    let done := (act given patience stamp).run surroundings
    (∃ fault, done.value = .error fault) ∧ done.world = surroundings := by
  intro done
  cases hsettings : GraphSettings.ofVariables given with
  | error error =>
      simp only [done, act, hsettings]
      exact ⟨⟨_, rfl⟩, rfl⟩
  | ok settings =>
      have hpurpose : ∃ fault, purpose given patience = .error fault := by
        cases h with
        | badSettings hbad =>
            rw [hsettings] at hbad
            cases hbad
        | badWorkflowId hgiven hraw =>
            simp only [purpose, workflow?, hgiven, hraw]
            exact ⟨_, rfl⟩
        | @noStore raw hgiven hurl hroot =>
            cases hraw : Uuid.parse raw with
            | error fault =>
                simp only [purpose, workflow?, hgiven, hraw]
                exact ⟨_, rfl⟩
            | ok id =>
                simp only [purpose, workflow?, place?, hgiven, hraw, hurl, hroot]
                exact ⟨_, rfl⟩
      obtain ⟨fault, hfault⟩ := hpurpose
      simp only [done, act, hsettings, hfault]
      exact ⟨⟨_, rfl⟩, rfl⟩

theorem run_testConnection (settings : GraphSettings) (purpose : Purpose (Files × Web))
    (surroundings : Surroundings) :
    let test := (Amundsen.connector.connectAndTest settings purpose stamp).run surroundings
    let done := (testConnection settings purpose stamp).run surroundings
    done.value = test.value.mapError .check ∧ done.world = test.world := by
  simp only [testConnection, Act.run_bind]
  generalize (Amundsen.connector.connectAndTest settings purpose stamp).run surroundings = test
  obtain ⟨value, world, events⟩ := test
  cases value with
  | error error => exact ⟨rfl, rfl⟩
  | ok report? =>
      cases report? with
      | none => exact ⟨rfl, rfl⟩
      | some report => exact ⟨rfl, rfl⟩

/-- Variables that make sense are acted on by connecting and testing. -/
theorem act_of_usable {settings : GraphSettings} {purpose' : Purpose (Files × Web)}
    (hsettings : GraphSettings.ofVariables given = .ok settings)
    (hpurpose : purpose given patience = .ok purpose') (surroundings : Surroundings) :
    let test := (Amundsen.connector.connectAndTest settings purpose' stamp).run surroundings
    let done := (act given patience stamp).run surroundings
    done.value = test.value.mapError .check ∧ done.world = test.world := by
  intro test done
  have hnote : ((notePurpose purpose').run surroundings).world = surroundings := by
    cases purpose' with
    | inline => rfl
    | workflow target store => rfl
  obtain ⟨hvalue, hworld⟩ := run_testConnection stamp settings purpose' surroundings
  simp only [done, act, hsettings, hpurpose, Act.run_bind, Act.run_note, hnote]
  exact ⟨hvalue, hworld⟩

end Acting

/-! ## What is seen -/

/-- The command ends well and writes out a report, which is read back to the millisecond. -/
structure Performance.Shows (done : Performance) (report : Report) : Prop where
  exitStatus : done.exitStatus = 0
  output : done.output = report.toJson.pretty ++ "\n"
  decodes : Report.decode.decodeText report.toJson.pretty = .ok report.wholeMillis

/-- The command makes a report and has it recorded. It ends well exactly if the report is accepted,
and then it shows it; without a report it records nothing. -/
structure Performance.Records (done : Performance) (settings : GraphSettings) (net : BoltNet)
    (stamp : Timestamp) (records : Files × Web)
    (recording : Report → Outcome (Files × Web) (Except CheckError Unit)) : Prop where
  succeeds_iff : done.exitStatus = 0 ↔
    ∃ answer, Answered settings net answer ∧
      (recording (accessReport answer stamp)).value = .ok ()
  shows : ∀ answer, Answered settings net answer → done.exitStatus = 0 →
    done.Shows (accessReport answer stamp)
  world : ∀ answer, Answered settings net answer →
    done.surroundings.2 = (recording (accessReport answer stamp)).world
  untouched : (∀ answer, ¬ Answered settings net answer) → done.surroundings.2 = records

/-- A command that ends well had its report accepted. -/
theorem Performance.Records.accepted {done : Performance} {settings : GraphSettings}
    {net : BoltNet} {stamp : Timestamp} {records : Files × Web}
    {recording : Report → Outcome (Files × Web) (Except CheckError Unit)}
    (h : done.Records settings net stamp records recording) {answer : Except StepFailure Nat}
    (hanswered : Answered settings net answer) (hzero : done.exitStatus = 0) :
    (recording (accessReport answer stamp)).value = .ok () := by
  obtain ⟨answer', hanswered', haccepted⟩ := h.succeeds_iff.mp hzero
  obtain rfl := hanswered.unique hanswered'
  exact haccepted

section Performing

variable {environment : Environment} {patience : Patience} {stamp : Timestamp}
  {net : BoltNet} {files : Files} {web : Web}

theorem surroundings_perform :
    (perform environment patience stamp (net, files, web)).surroundings =
      ((act (given environment files) patience stamp).run (net, files, web)).world := by
  unfold perform given
  dsimp only
  split <;> rfl

theorem perform_of_ok {report? : Option Report}
    (h : ((act (given environment files) patience stamp).run (net, files, web)).value =
      .ok report?) :
    let done := perform environment patience stamp (net, files, web)
    done.exitStatus = 0 ∧ done.output = outputText report? := by
  unfold given at h
  simp only [perform, h, and_self]

theorem perform_of_error {fault : Fault}
    (h : ((act (given environment files) patience stamp).run (net, files, web)).value =
      .error fault) :
    let done := perform environment patience stamp (net, files, web)
    done.exitStatus = 1 ∧ done.output = "" := by
  unfold given at h
  simp only [perform, h, and_self]

/-- A command that fails writes nothing. -/
theorem output_of_failed
    (h : (perform environment patience stamp (net, files, web)).exitStatus ≠ 0) :
    (perform environment patience stamp (net, files, web)).output = "" := by
  cases hvalue : ((act (given environment files) patience stamp).run
      (net, files, web)).value with
  | ok report? => exact absurd (perform_of_ok hvalue).1 h
  | error fault => exact (perform_of_error hvalue).2

/-- Variables that make no sense are without effect, and the command fails. -/
theorem perform_of_unusable (h : Unusable (given environment files)) :
    let done := perform environment patience stamp (net, files, web)
    done.exitStatus = 1 ∧ done.output = "" ∧ done.surroundings = (net, files, web) := by
  intro done
  obtain ⟨⟨fault, hfault⟩, hworld⟩ := act_of_unusable patience stamp h (net, files, web)
  obtain ⟨hstatus, houtput⟩ := perform_of_error hfault
  exact ⟨hstatus, houtput, surroundings_perform.trans hworld⟩

end Performing

section Testing

variable {environment : Environment} {patience : Patience} {stamp : Timestamp}
  {net : BoltNet} {files : Files} {web : Web} {settings : GraphSettings}
  {purpose' : Purpose (Files × Web)}

/-- With an answer, the command comes to the delivery of the report on it. -/
theorem perform_of_answered
    (hsettings : GraphSettings.ofVariables (given environment files) = .ok settings)
    (hpurpose : purpose (given environment files) patience = .ok purpose')
    {answer : Except StepFailure Nat} (hanswered : Answered settings net answer) :
    let delivery := (purpose'.deliver (accessReport answer stamp)).run (files, web)
    let done := perform environment patience stamp (net, files, web)
    (∀ report?, delivery.value = .ok report? →
      done.exitStatus = 0 ∧ done.output = outputText report?) ∧
      (∀ error, delivery.value = .error error → done.exitStatus = 1 ∧ done.output = "") ∧
      done.surroundings.2 = delivery.world := by
  intro delivery done
  obtain ⟨hact, hworld⟩ := act_of_usable patience stamp hsettings hpurpose (net, files, web)
  obtain ⟨hvalue, hrecords⟩ :=
    Amundsen.connectAndTest_of_answered purpose' stamp (files, web) hanswered
  rw [hvalue] at hact
  refine ⟨fun report? hdelivered => ?_, fun error hrefused => ?_, ?_⟩
  · apply perform_of_ok
    rw [hact, hdelivered]
    rfl
  · apply perform_of_error
    rw [hact, hrefused]
    rfl
  · exact (congrArg Prod.snd (surroundings_perform.trans hworld)).trans hrecords

/-- Without an answer, the command fails and delivers nothing. -/
theorem perform_of_unanswered
    (hsettings : GraphSettings.ofVariables (given environment files) = .ok settings)
    (hpurpose : purpose (given environment files) patience = .ok purpose')
    (hunanswered : ∀ answer, ¬ Answered settings net answer) :
    let done := perform environment patience stamp (net, files, web)
    done.exitStatus = 1 ∧ done.surroundings.2 = (files, web) := by
  intro done
  obtain ⟨hact, hworld⟩ := act_of_usable patience stamp hsettings hpurpose (net, files, web)
  obtain ⟨⟨error, herror⟩, hrecords⟩ :=
    Amundsen.connectAndTest_of_unanswered purpose' stamp (files, web) hunanswered
  rw [herror] at hact
  exact ⟨(perform_of_error hact).1,
    (congrArg Prod.snd (surroundings_perform.trans hworld)).trans hrecords⟩

/-- A command ends well exactly if the report on an answer is delivered. -/
theorem exitStatus_eq_zero_iff
    (hsettings : GraphSettings.ofVariables (given environment files) = .ok settings)
    (hpurpose : purpose (given environment files) patience = .ok purpose') :
    (perform environment patience stamp (net, files, web)).exitStatus = 0 ↔
      ∃ answer, Answered settings net answer ∧ ∃ report?,
        ((purpose'.deliver (accessReport answer stamp)).run (files, web)).value = .ok report? := by
  constructor
  · intro hzero
    by_cases hanswered : ∃ answer, Answered settings net answer
    · obtain ⟨answer, hanswered⟩ := hanswered
      obtain ⟨-, hbad, -⟩ :=
        @perform_of_answered _ _ stamp _ _ web _ _ hsettings hpurpose _ hanswered
      cases hdelivery : ((purpose'.deliver (accessReport answer stamp)).run (files, web)).value with
      | ok report? => exact ⟨answer, hanswered, report?, hdelivery⟩
      | error error => exact absurd ((hbad error hdelivery).1.symm.trans hzero) (by decide)
    · have hstatus := (@perform_of_unanswered _ _ stamp _ _ web _ _ hsettings hpurpose
        fun answer h => hanswered ⟨answer, h⟩).1
      exact absurd (hstatus.symm.trans hzero) (by decide)
  · rintro ⟨answer, hanswered, report?, hdelivered⟩
    exact ((perform_of_answered hsettings hpurpose hanswered).1 report? hdelivered).1

/-- Inline the answer decides. -/
theorem perform_inline
    (hsettings : GraphSettings.ofVariables (given environment files) = .ok settings)
    (hgiven : given environment files "WORKFLOW_ID" = none) :
    let done := perform environment patience stamp (net, files, web)
    (done.exitStatus = 0 ↔ ∃ rows, Answered settings net (.ok rows)) ∧
      done.surroundings.2 = (files, web) ∧ done.output = "" := by
  intro done
  have hpurpose : purpose (given environment files) patience = .ok .inline := purpose_inline hgiven
  have hdelivery : ∀ answer,
      ((Purpose.inline.deliver (accessReport answer stamp)).run (files, web)).value =
        if answer.isOk then .ok none
        else .error (Purpose.inlineFailure (accessReport answer stamp)) := by
    intro answer
    rw [← Amundsen.isSuccess_accessReport answer stamp]
    rfl
  have hiff := @exitStatus_eq_zero_iff _ _ stamp net _ web _ _ hsettings hpurpose
  refine ⟨hiff.trans ⟨?_, ?_⟩, ?_, ?_⟩
  · rintro ⟨answer, hanswered, report?, hdelivered⟩
    rw [hdelivery] at hdelivered
    cases answer with
    | ok rows => exact ⟨rows, hanswered⟩
    | error failure => cases hdelivered
  · rintro ⟨rows, hanswered⟩
    exact ⟨.ok rows, hanswered, none, hdelivery (.ok rows)⟩
  · by_cases hanswered : ∃ answer, Answered settings net answer
    · obtain ⟨answer, hanswered⟩ := hanswered
      exact (perform_of_answered hsettings hpurpose hanswered).2.2
    · exact (perform_of_unanswered hsettings hpurpose fun answer h => hanswered ⟨answer, h⟩).2
  · by_cases hzero : done.exitStatus = 0
    · obtain ⟨answer, hanswered, report?, hdelivered⟩ := hiff.mp hzero
      obtain ⟨-, houtput⟩ := (perform_of_answered hsettings hpurpose hanswered).1 _ hdelivered
      rw [hdelivery] at hdelivered
      cases answer with
      | ok rows =>
          cases hdelivered
          exact houtput
      | error failure => cases hdelivered
    · exact output_of_failed hzero

/-- For a workflow the place where reports are recorded decides. -/
theorem perform_workflow {target : Workflow} {place : ReportStore (Files × Web)}
    (hsettings : GraphSettings.ofVariables (given environment files) = .ok settings)
    (hpurpose : purpose (given environment files) patience = .ok (.workflow target place)) :
    (perform environment patience stamp (net, files, web)).Records settings net stamp (files, web)
      fun report => (place.record target report).run (files, web) := by
  have hiff := @exitStatus_eq_zero_iff _ _ stamp net _ web _ _ hsettings hpurpose
  have hdelivery := fun answer =>
    Purpose.run_deliver_workflow target place (accessReport answer stamp) (files, web)
  refine ⟨hiff.trans ⟨?_, ?_⟩, ?_, ?_, ?_⟩
  · rintro ⟨answer, hanswered, report?, hdelivered⟩
    obtain ⟨_, haccepted, -⟩ := exists_of_map_eq_ok ((hdelivery answer).1.symm.trans hdelivered)
    exact ⟨answer, hanswered, haccepted⟩
  · rintro ⟨answer, hanswered, haccepted⟩
    exact ⟨answer, hanswered, _, (hdelivery answer).1.trans (congrArg (Except.map _) haccepted)⟩
  · intro answer hanswered hzero
    obtain ⟨answer', hanswered', report?, hdelivered⟩ := hiff.mp hzero
    obtain rfl := hanswered.unique hanswered'
    obtain ⟨_, -, rfl⟩ := exists_of_map_eq_ok ((hdelivery answer).1.symm.trans hdelivered)
    obtain ⟨-, houtput⟩ := (perform_of_answered hsettings hpurpose hanswered).1 _ hdelivered
    have hwords := Amundsen.inWords_accessReport answer stamp
    exact ⟨hzero, houtput,
      (accessReport answer stamp).reads_toJson.decodeText_pretty hwords.toJson⟩
  · intro answer hanswered
    exact (perform_of_answered hsettings hpurpose hanswered).2.2.trans (hdelivery answer).2
  · intro hunanswered
    exact (perform_of_unanswered hsettings hpurpose hunanswered).2

/-- What a catalog is sent carries the report that is made, and it is sent if the command ends
well; no file is written. -/
theorem Performance.Records.catalog {done : Performance} {target : Workflow} {store : CatalogStore}
    (h : done.Records settings net stamp (files, web) fun report =>
      (Act.onSecond (store.record target report)).run (files, web))
    {answer : Except StepFailure Nat} (hanswered : Answered settings net answer) :
    ∃ sent, done.surroundings.2.1 = files ∧ done.surroundings.2.2.seen = web.seen ++ sent ∧
      (∀ request body, .request request ∈ sent → request.body = some body →
        CarriesReport body (accessReport answer stamp)) ∧
      (done.exitStatus = 0 → ∃ request body, .request request ∈ sent ∧
        request.method = "PATCH" ∧ request.body = some body) := by
  have hwords := Amundsen.inWords_accessReport answer stamp
  have hfiles := congrArg Prod.fst (h.world answer hanswered)
  have hweb := congrArg Prod.snd (h.world answer hanswered)
  have haccepted := h.accepted hanswered
  simp only [Act.run_onSecond] at hfiles hweb haccepted
  generalize accessReport answer stamp = report at *
  obtain ⟨sent, hseen, hcarries, hpatch⟩ := store.carriesReport_record target report web hwords
  rw [hweb]
  exact ⟨sent, hfiles, hseen, hcarries, fun hzero => hpatch (haccepted hzero)⟩

/-- The report that is made is loaded from a directory if the command ends well; no server is asked
for anything. -/
theorem Performance.Records.directory {done : Performance} {target : Workflow}
    {store : DirectoryStore}
    (h : done.Records settings net stamp (files, web) fun report =>
      (Act.onFirst (store.record target report)).run (files, web))
    {answer : Except StepFailure Nat} (hanswered : Answered settings net answer) :
    done.surroundings.2.2 = web ∧
      (files.Rooted → done.exitStatus = 0 → store.load done.surroundings.2.1 target.id =
        .ok (some ⟨target, (accessReport answer stamp).wholeMillis⟩)) := by
  have hwords := Amundsen.inWords_accessReport answer stamp
  have hfiles := congrArg Prod.fst (h.world answer hanswered)
  have hweb := congrArg Prod.snd (h.world answer hanswered)
  have haccepted := h.accepted hanswered
  simp only [Act.run_onFirst] at hfiles hweb haccepted
  generalize accessReport answer stamp = report at *
  rw [hfiles]
  exact ⟨hweb, fun hrooted hzero =>
    store.load_record target report hrooted hwords (haccepted hzero)⟩

end Testing

/-- **What is seen of a command.** A command that fails writes nothing. Variables that make no sense
make it fail before anything is sent or written. Without a workflow nothing is written either, and
the exit status tells whether a connection opens and the statement of the check is answered with
rows.

With a workflow the exit status tells whether a connection opens and the store accepts the report
on the answer, whatever it says; a catalog comes before a directory, which is left alone then. The
report that is written out is read back as what the store keeps: as the bodies that are sent to a
catalog carry it, and as it is loaded from a directory. -/
theorem command_line_contract (environment : Environment) (patience : Patience)
    (stamp : Timestamp) (net : BoltNet) (files : Files) (web : Web) :
    let given := given environment files
    let done := perform environment patience stamp (net, files, web)
    (done.exitStatus ≠ 0 → done.output = "") ∧
    (Unusable given → done.exitStatus ≠ 0 ∧ done.surroundings = (net, files, web)) ∧
    (given "WORKFLOW_ID" = none → done.output = "") ∧
    ∀ settings, GraphSettings.ofVariables given = .ok settings →
      (given "WORKFLOW_ID" = none →
        (done.exitStatus = 0 ↔ ∃ rows, Answered settings net (.ok rows)) ∧
          done.surroundings.2 = (files, web)) ∧
      ∀ raw id, given "WORKFLOW_ID" = some raw → Uuid.parse raw = .ok id →
        (∀ url, given "CATALOG_API_URL" = some url →
          let token := (given "CATALOG_API_TOKEN").map Secret.mk
          let store := CatalogStore.ofAddress url token patience.times
          done.Records settings net stamp (files, web) (fun report =>
            (Act.onSecond (store.record (target given id) report)).run (files, web)) ∧
          ∀ answer, Answered settings net answer →
            ∃ sent, done.surroundings.2.1 = files ∧
              done.surroundings.2.2.seen = web.seen ++ sent ∧
              (∀ request body, .request request ∈ sent → request.body = some body →
                CarriesReport body (accessReport answer stamp)) ∧
              (done.exitStatus = 0 → ∃ request body, .request request ∈ sent ∧
                request.method = "PATCH" ∧ request.body = some body)) ∧
        ∀ root, given "CATALOG_API_URL" = none → given "WORKFLOW_STORE_DIR" = some root →
          let store : DirectoryStore := ⟨root⟩
          done.Records settings net stamp (files, web) (fun report =>
            (Act.onFirst (store.record (target given id) report)).run (files, web)) ∧
          ∀ answer, Answered settings net answer →
            done.surroundings.2.2 = web ∧
              (files.Rooted → done.exitStatus = 0 → store.load done.surroundings.2.1 id =
                .ok (some ⟨target given id, (accessReport answer stamp).wholeMillis⟩)) := by
  intro given done
  refine ⟨output_of_failed, fun hunusable => ?_, fun hgiven => ?_, fun settings hsettings =>
    ⟨fun hgiven => ?_, fun raw id hgiven hraw => ⟨fun url hurl => ?_, fun root hurl hroot => ?_⟩⟩⟩
  · obtain ⟨hstatus, -, hworld⟩ :=
      @perform_of_unusable environment patience stamp net files web hunusable
    exact ⟨hstatus ▸ Nat.one_ne_zero, hworld⟩
  · cases hsettings : GraphSettings.ofVariables given with
    | error error =>
        exact (@perform_of_unusable environment patience stamp net files web
          (.badSettings hsettings)).2.1
    | ok settings => exact (perform_inline hsettings hgiven).2.2
  · obtain ⟨hstatus, hworld, -⟩ :=
      @perform_inline _ patience stamp net _ web _ hsettings hgiven
    exact ⟨hstatus, hworld⟩
  · intro token store
    have hrecords := @perform_workflow _ _ stamp net _ web _ _ _ hsettings
      (purpose_workflow hgiven hraw (@place_catalog _ patience _ hurl))
    exact ⟨hrecords, fun answer => hrecords.catalog⟩
  · intro store
    have hrecords := @perform_workflow _ _ stamp net _ web _ _ _ hsettings
      (purpose_workflow hgiven hraw (@place_directory _ patience _ hurl hroot))
    exact ⟨hrecords, fun answer => hrecords.directory⟩

/-- An environment with a directory for reports, and a workflow. -/
def shelvingEnvironment : Environment :=
  [("NEO4J_HOST_PORT", "db:7687"), ("NEO4J_PASSWORD", "hunter2"),
   ("WORKFLOW_ID", "00000000-0000-0000-0000-000000000001"), ("WORKFLOW_STORE_DIR", "store")]

/-- The settings in it. -/
def shelvingSettings : GraphSettings where
  hostPort := "db:7687"
  username := "neo4j"
  password := ⟨"hunter2"⟩

/-- A peer that answers when a connection is made, but not to the statement of the check. -/
def shelvingNet : BoltNet where
  peer := some
    { host := "db", port := 7687
      replies := [(.statement, .done), (.statement, .failure none "no right to read")] }

/-- A failed check is recorded all the same, and the command ends well. -/
theorem command_line_contract_shelving :
    let given := given shelvingEnvironment {}
    let done := perform shelvingEnvironment ⟨3⟩ .epoch (shelvingNet, {}, {})
    GraphSettings.ofVariables given = .ok shelvingSettings ∧
      given "WORKFLOW_ID" = some "00000000-0000-0000-0000-000000000001" ∧
      ∃ answer, Answered shelvingSettings shelvingNet answer ∧ answer.isOk = false ∧
        done.Shows (accessReport answer .epoch) ∧
        DirectoryStore.load ⟨"store"⟩ done.surroundings.2.1 ⟨1⟩ =
          .ok (some ⟨target given ⟨1⟩, (accessReport answer .epoch).wholeMillis⟩) := by
  have hsettings : GraphSettings.ofVariables (given shelvingEnvironment {}) =
      .ok shelvingSettings := by
    decide +kernel
  have hgiven : given shelvingEnvironment {} "WORKFLOW_ID" =
      some "00000000-0000-0000-0000-000000000001" := by
    decide +kernel
  have hraw : Uuid.parse "00000000-0000-0000-0000-000000000001" = .ok ⟨1⟩ := by decide +kernel
  have hurl : given shelvingEnvironment {} "CATALOG_API_URL" = none := by decide +kernel
  have hroot : given shelvingEnvironment {} "WORKFLOW_STORE_DIR" = some "store" := by
    decide +kernel
  have hrefused : (match ((GraphConnection.connect shelvingSettings).run shelvingNet).value with
      | .error _ => true
      | .ok connection =>
          ((GraphConnection.read Amundsen.userQuery).run (connection,
            ((GraphConnection.connect shelvingSettings).run shelvingNet).world)).value.isOk) =
        false := by
    decide +kernel
  have hcontract := command_line_contract shelvingEnvironment ⟨3⟩ .epoch shelvingNet {} {}
  obtain ⟨hrecords, hkept⟩ := (hcontract.2.2.2 shelvingSettings hsettings).2 _ ⟨1⟩ hgiven hraw
    |>.2 "store" hurl hroot
  cases hopens : ((GraphConnection.connect shelvingSettings).run shelvingNet).value with
  | error failure =>
      rw [hopens] at hrefused
      cases hrefused
  | ok connection =>
      rw [hopens] at hrefused
      dsimp only at hrefused
      have hanswered := Amundsen.answered_of_ok hopens
      generalize ((GraphConnection.read Amundsen.userQuery).run _).value = answer at *
      have haccepted : ((Act.onFirst (DirectoryStore.record ⟨"store"⟩
          (target (given shelvingEnvironment {}) ⟨1⟩) (accessReport answer .epoch))).run
            (({} : Files), ({} : Web))).value = .ok () := by
        rw [Act.run_onFirst, DirectoryStore.value_record]
        exact (DirectoryStore.performAll_eq_ok_iff Files.rooted_empty _).mpr
          (DirectoryStore.accepts_empty _ _)
      have hzero := hrecords.succeeds_iff.mpr ⟨answer, hanswered, haccepted⟩
      exact ⟨hsettings, hgiven, answer, hanswered, hrefused,
        hrecords.shows answer hanswered hzero,
        (hkept answer hanswered).2 Files.rooted_empty hzero⟩

end Command

end Preflight
