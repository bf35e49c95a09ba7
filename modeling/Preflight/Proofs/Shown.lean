import Preflight.Proofs.Operations

/-!
# What the texts of answers are made of

The texts of a peer come to a reader in two ways. A message is a scrubbed text, or
the first line of one, cut to a limit; a detail is a scrubbed text. A property that
holds of all of these, whatever the text was before (`GraphSettings.Admits`), holds
of every message and every detail of any sequence of operations: there is no way
from the peer to an answer around the scrubbing.

The reports that are recorded on the way are followed through the store. A store
that writes down its calls keeps a list of reports that have the property, since
it is given no others (`ReportStore.fits_logged`).

## Main results

* `GraphOperation.satisfies_perform` — the answer to one operation.
* `GraphOperation.satisfies_performAll` — the answers to a sequence of operations.
* `GraphOperation.satisfies_logged` — these, and all that was recorded on the way.
-/

namespace Preflight

variable {τ : Type} {M D : String → Prop} {settings : GraphSettings}

/-! ## The texts of an answer -/

namespace Report

/-- The messages of the results. -/
def messages (report : Report) : List String := report.steps.filterMap StepResult.message

/-- The full texts of the causes of failures. -/
def details (report : Report) : List String := report.steps.filterMap StepResult.errorLog

/-- `M` holds of the messages of a report, and `D` of its details. -/
structure Satisfies (M D : String → Prop) (report : Report) : Prop where
  message : ∀ text ∈ report.messages, M text
  detail : ∀ text ∈ report.details, D text

end Report

/-- The cause of a failure to connect, or the message of a failed step. -/
def CheckError.messages : CheckError → List String
  | connection failure => [failure.cause]
  | checkFailed _ _ message => [message]
  | _ => []

namespace GraphAnswer

/-- The texts that tell a reader what went wrong with a peer. -/
def messages : GraphAnswer → List String
  | connected (.error failure) => [failure.cause]
  | counted (.error failure) => [failure.message]
  | pinged (.error error) => error.messages
  | tested (.error error) => error.messages
  | tested (.ok (some report)) => report.messages
  | _ => []

/-- The full texts of what went wrong. -/
def details : GraphAnswer → List String
  | counted (.error failure) => failure.detail.toList
  | tested (.ok (some report)) => report.details
  | _ => []

/-- `M` holds of the messages of an answer, and `D` of its details. -/
structure Satisfies (M D : String → Prop) (answer : GraphAnswer) : Prop where
  message : ∀ text ∈ answer.messages, M text
  detail : ∀ text ∈ answer.details, D text

theorem satisfies_of_nil {answer : GraphAnswer} (hmessages : answer.messages = [])
    (hdetails : answer.details = []) : answer.Satisfies M D where
  message := by simp [hmessages]
  detail := by simp [hdetails]

end GraphAnswer

/-! ## Scrubbed texts -/

/-- `M` holds of every text that is shown as a message, and `D` of every text that is shown as a
detail, whatever they were made from. -/
structure GraphSettings.Admits (settings : GraphSettings) (M D : String → Prop) : Prop where
  cause : ∀ text, M (scrub text [settings.password])
  message : ∀ text, M (Text.ellipsis (Text.firstLine (scrub text [settings.password]))
    GraphConnection.longestMessage)
  detail : ∀ text, D (scrub text [settings.password])

namespace GraphSettings.Admits

variable (admits : settings.Admits M D)

include admits

theorem shown_cause (cause : PlainCause) : M (cause.shown settings).cause :=
  admits.cause cause.text

theorem stepFailure_message (fault : PlainFault) : M (fault.stepFailure settings).message := by
  cases fault with
  | opening cause => exact admits.shown_cause cause
  | talk fault => exact admits.message fault.message

theorem stepFailure_detail (fault : PlainFault) :
    ∀ text ∈ (fault.stepFailure settings).detail.toList, D text := by
  cases fault with
  | opening cause => simp [PlainFault.stepFailure]
  | talk fault =>
      intro text htext
      obtain rfl := List.mem_singleton.mp htext
      exact admits.detail fault.diagnostic

theorem connectionFailure_cause (fault : PlainFault) :
    M (fault.connectionFailure settings).cause := by
  cases fault with
  | opening cause => exact admits.cause _
  | talk fault => exact admits.cause (settings.causeText fault)

theorem satisfies_counted (result : Except PlainFault Nat) :
    (GraphAnswer.counted (result.mapError (·.stepFailure settings))).Satisfies M D := by
  cases result with
  | ok rows => exact GraphAnswer.satisfies_of_nil rfl rfl
  | error fault =>
      refine ⟨?_, admits.stepFailure_detail fault⟩
      intro text htext
      obtain rfl := List.mem_singleton.mp htext
      exact admits.stepFailure_message fault

theorem satisfies_pinged (result : Except PlainFault Unit) :
    (GraphAnswer.pinged (result.mapError fun fault =>
      .connection (fault.connectionFailure settings))).Satisfies M D := by
  cases result with
  | ok _ => exact GraphAnswer.satisfies_of_nil rfl rfl
  | error fault =>
      constructor
      · intro text htext
        obtain rfl := List.mem_singleton.mp htext
        exact admits.connectionFailure_cause fault
      · intro text htext
        cases htext

/-- The report on a plain reading. -/
theorem satisfies_accessReport (answer : Except PlainFault Nat) (stamp : Timestamp) :
    (Amundsen.accessReport (answer.mapError (·.stepFailure settings)) stamp).Satisfies M D := by
  cases answer with
  | ok rows =>
      constructor
      · intro text htext
        cases htext
      · intro text htext
        cases htext
  | error fault =>
      constructor
      · intro text htext
        obtain rfl : text = (fault.stepFailure settings).message := List.mem_singleton.mp htext
        exact admits.stepFailure_message fault
      · intro text htext
        obtain ⟨result, hresult, hlog⟩ := List.mem_filterMap.mp htext
        obtain rfl := List.mem_singleton.mp hresult
        exact admits.stepFailure_detail fault text (Option.mem_toList.mpr hlog)

end GraphSettings.Admits

/-! ## Stores -/

/-- The store keeps a property of its records if it is given reports of which `M` and `D` hold, and
`M` holds of what it says if it refuses one. -/
structure ReportStore.Fits (M D : String → Prop) (keep : τ → Prop) (store : ReportStore τ) :
    Prop where
  keeps : ∀ target report, report.Satisfies M D → Act.Keeps keep (store.record target report)
  refuses : ∀ target report records error,
    ((store.record target report).run records).value = .error error →
      ∀ text ∈ error.messages, M text

/-- The store of a purpose, if it has one. -/
def Purpose.store? : Purpose τ → Option (ReportStore τ)
  | inline => none
  | workflow _ store => some store

/-- The store of an operation, if it has one. -/
def GraphOperation.store? : GraphOperation τ → Option (ReportStore τ)
  | test _ purpose _ => purpose.store?
  | connectAndTest purpose _ => purpose.store?
  | _ => none

theorem GraphOperation.store?_map {τ' : Type} (f : ReportStore τ → ReportStore τ')
    (operation : GraphOperation τ) : (operation.map f).store? = operation.store?.map f := by
  have hpurpose : ∀ purpose : Purpose τ, (purpose.map f).store? = purpose.store?.map f := by
    intro purpose
    cases purpose with
    | inline => rfl
    | workflow target store => rfl
  cases operation with
  | test number purpose stamp => exact hpurpose purpose
  | connectAndTest purpose stamp => exact hpurpose purpose
  | connect => rfl
  | read number statement => rfl
  | ping number => rfl
  | wait ms => rfl

/-! ## What an operation yields -/

section Perform

variable {keep : τ → Prop}

/-- The answer and the record of a delivery. -/
theorem Purpose.satisfies_deliver (admits : settings.Admits M D) {purpose : Purpose τ}
    (hstore : ∀ store ∈ purpose.store?, store.Fits M D keep) (answer : Except PlainFault Nat)
    (stamp : Timestamp) {records : τ} (hkeep : keep records) :
    let report := Amundsen.accessReport (answer.mapError (·.stepFailure settings)) stamp
    let done := (purpose.deliver report).run records
    (GraphAnswer.tested done.value).Satisfies M D ∧ keep done.world := by
  intro report done
  have hreport : report.Satisfies M D := admits.satisfies_accessReport answer stamp
  cases purpose with
  | inline =>
      refine ⟨?_, hkeep⟩
      cases answer with
      | ok rows => exact GraphAnswer.satisfies_of_nil rfl rfl
      | error fault =>
          constructor
          · intro text htext
            obtain rfl : text = (fault.stepFailure settings).message := List.mem_singleton.mp htext
            exact admits.stepFailure_message fault
          · intro text htext
            cases htext
  | workflow target store =>
      obtain ⟨hvalue, hworld⟩ := Purpose.run_deliver_workflow target store report records
      have hfits : store.Fits M D keep := hstore store rfl
      refine ⟨?_, ?_⟩
      · show (GraphAnswer.tested done.value).Satisfies M D
        rw [hvalue]
        cases hrecording : ((store.record target report).run records).value with
        | ok _ => exact ⟨hreport.message, hreport.detail⟩
        | error error =>
            refine ⟨hfits.refuses target report records error hrecording, ?_⟩
            intro text htext
            cases htext
      · show keep done.world
        rw [hworld]
        exact hfits.keeps target report hreport records hkeep

/-- The connection in front belongs to the settings, and `keep` holds of the records behind. -/
def Held (settings : GraphSettings) (keep : τ → Prop)
    (world : (GraphConnection × BoltNet) × τ) : Prop :=
  world.1.1.settings = settings ∧ keep world.2

theorem GraphConnection.yields_read (admits : settings.Admits M D) (statement : String) :
    Act.Yields (Held settings keep) (fun result => (GraphAnswer.counted result).Satisfies M D)
      (Act.onFirst (read statement)) := by
  rintro ⟨⟨connection, net⟩, records⟩ ⟨rfl, hkeep⟩
  rw [Act.run_onFirst, run_read, Act.run_showing]
  exact ⟨admits.satisfies_counted _, settings_plainRead connection net statement, hkeep⟩

theorem GraphConnection.yields_ping (admits : settings.Admits M D) :
    Act.Yields (Held settings keep) (fun result => (GraphAnswer.pinged result).Satisfies M D)
      (Act.onFirst ping) := by
  rintro ⟨⟨connection, net⟩, records⟩ ⟨rfl, hkeep⟩
  rw [Act.run_onFirst, run_ping, Act.run_showing]
  exact ⟨admits.satisfies_pinged _, settings_plainPing connection net, hkeep⟩

theorem Amundsen.yields_test (admits : settings.Admits M D) {purpose : Purpose τ}
    (hstore : ∀ store ∈ purpose.store?, store.Fits M D keep) (stamp : Timestamp) :
    Act.Yields (Held settings keep) (fun result => (GraphAnswer.tested result).Satisfies M D)
      (connector.test purpose stamp) := by
  rintro ⟨⟨connection, net⟩, records⟩ ⟨rfl, hkeep⟩
  rw [run_test, GraphConnection.run_read, Act.run_showing]
  obtain ⟨hanswer, hkept⟩ := Purpose.satisfies_deliver admits hstore
    ((GraphConnection.plainRead userQuery).run (connection, net)).value stamp hkeep
  exact ⟨hanswer, GraphConnection.settings_plainRead connection net userQuery, hkept⟩

theorem Amundsen.yields_connectAndTest (admits : settings.Admits M D) {purpose : Purpose τ}
    (hstore : ∀ store ∈ purpose.store?, store.Fits M D keep) (stamp : Timestamp) :
    Act.Yields (fun world : BoltNet × τ => keep world.2)
      (fun result => (GraphAnswer.tested result).Satisfies M D)
      (connector.connectAndTest settings purpose stamp) := by
  rintro ⟨net, records⟩ hkeep
  cases hplain : (GraphConnection.plainConnect settings).run net with
  | mk result after events =>
      have hconnect := GraphConnection.run_connect hplain
      cases result with
      | error cause =>
          rw [run_connectAndTest_of_error settings purpose stamp records hconnect]
          refine ⟨⟨?_, ?_⟩, hkeep⟩
          · intro text htext
            obtain rfl := List.mem_singleton.mp htext
            exact admits.shown_cause cause
          · intro text htext
            cases htext
      | ok connection =>
          rw [run_connectAndTest_of_ok settings purpose stamp records hconnect]
          have hsettings : connection.settings = settings := by
            have hvalue : ((GraphConnection.plainConnect settings).run net).value =
                .ok connection := by rw [hplain]
            exact GraphConnection.settings_of_plainConnect hvalue
          obtain ⟨hanswer, _, hkept⟩ :=
            yields_test admits hstore stamp ((connection, after), records) ⟨hsettings, hkeep⟩
          exact ⟨hanswer, hkept⟩

/-- All connections of a world belong to the settings, and `keep` holds of its records. -/
structure GraphWorld.Held (settings : GraphSettings) (keep : τ → Prop) (world : GraphWorld τ) :
    Prop where
  settings : ∀ connection ∈ world.connections, connection.settings = settings
  records : keep world.records

namespace GraphWorld

variable {α : Type} {P : α → Prop}

theorem yields_onNet {act : Act BoltNet α} (h : ∀ net, P (act.run net).value) :
    Act.Yields (Held settings keep) P (onNet act) := by
  intro world hheld
  exact ⟨h world.net, hheld.settings, hheld.records⟩

theorem yields_onOutside {act : Act (BoltNet × τ) α}
    (h : Act.Yields (fun world => keep world.2) P act) :
    Act.Yields (Held settings keep) P (onOutside act) := by
  intro world hheld
  obtain ⟨hvalue, hkept⟩ := h (world.net, world.records) hheld.records
  exact ⟨hvalue, hheld.settings, hkept⟩

theorem yields_keep {connection : GraphConnection}
    (hsettings : connection.settings = settings) :
    Act.Yields (Held settings keep) (fun _ => True) (GraphWorld.keep connection) := by
  intro world hheld
  refine ⟨trivial, ?_, hheld.records⟩
  intro other hother
  rcases List.mem_append.mp hother with hold | hnew
  · exact hheld.settings other hold
  · rw [List.mem_singleton.mp hnew]
    exact hsettings

theorem yields_onConnection (number : Nat)
    {act : Act ((GraphConnection × BoltNet) × τ) α}
    (h : Act.Yields (Preflight.Held settings keep) P act) :
    Act.Yields (Held settings keep) (fun result => ∀ a ∈ result, P a)
      (onConnection number act) := by
  intro world hheld
  cases hthere : world.connections[number]? with
  | none =>
      rw [run_onConnection_of_none act hthere]
      exact ⟨by simp, hheld⟩
  | some connection =>
      rw [run_onConnection_of_some act hthere]
      have hsettings : connection.settings = settings :=
        hheld.settings connection (List.mem_of_getElem? hthere)
      obtain ⟨hvalue, hkept⟩ := h ((connection, world.net), world.records)
        ⟨hsettings, hheld.records⟩
      refine ⟨by simpa using hvalue, ⟨?_, hkept.2⟩⟩
      intro other hother
      rcases List.mem_or_eq_of_mem_set hother with hold | rfl
      · exact hheld.settings other hold
      · exact hkept.1

end GraphWorld

/-- A failure whose cause fulfils `M`, or a connection that belongs to the settings. -/
def GraphConnection.IsMade (settings : GraphSettings) (M : String → Prop) :
    Except ConnectionFailure GraphConnection → Prop
  | .error failure => M failure.cause
  | .ok connection => connection.settings = settings

theorem GraphConnection.isMade_connect (admits : settings.Admits M D) (net : BoltNet) :
    IsMade settings M ((connect settings).run net).value := by
  rw [connect_eq, Act.run_showing]
  cases hplain : ((plainConnect settings).run net).value with
  | error cause => exact admits.shown_cause cause
  | ok connection => exact settings_of_plainConnect hplain

namespace GraphOperation

/-- **The answer to one operation** is made of scrubbed texts, and so are the reports it has
recorded. -/
theorem satisfies_perform (admits : settings.Admits M D) {operation : GraphOperation τ}
    (hstore : ∀ store ∈ operation.store?, store.Fits M D keep) :
    Act.Yields (GraphWorld.Held settings keep) (GraphAnswer.Satisfies M D)
      (operation.perform settings) := by
  have hnothing : GraphAnswer.nothing.Satisfies M D := GraphAnswer.satisfies_of_nil rfl rfl
  cases operation with
  | connect =>
      refine (GraphWorld.yields_onNet (GraphConnection.isMade_connect admits)).bind
        fun result hresult => ?_
      cases result with
      | error failure =>
          refine Act.yields_pure ⟨?_, by simp [GraphAnswer.details]⟩
          intro text htext
          obtain rfl := List.mem_singleton.mp htext
          exact hresult
      | ok connection =>
          refine (GraphWorld.yields_keep hresult).bind fun _ _ => ?_
          exact Act.yields_pure (GraphAnswer.satisfies_of_nil rfl rfl)
  | read number statement =>
      refine (GraphWorld.yields_onConnection number
        (GraphConnection.yields_read admits statement)).bind fun result hresult => ?_
      cases result with
      | none => exact Act.yields_pure hnothing
      | some counted => exact Act.yields_pure (hresult counted rfl)
  | ping number =>
      refine (GraphWorld.yields_onConnection number
        (GraphConnection.yields_ping admits)).bind fun result hresult => ?_
      cases result with
      | none => exact Act.yields_pure hnothing
      | some pinged => exact Act.yields_pure (hresult pinged rfl)
  | test number purpose stamp =>
      refine (GraphWorld.yields_onConnection number
        (Amundsen.yields_test admits hstore stamp)).bind fun result hresult => ?_
      cases result with
      | none => exact Act.yields_pure hnothing
      | some tested => exact Act.yields_pure (hresult tested rfl)
  | connectAndTest purpose stamp =>
      refine (GraphWorld.yields_onOutside
        (Amundsen.yields_connectAndTest admits hstore stamp)).bind fun result hresult => ?_
      exact Act.yields_pure hresult
  | wait ms =>
      intro world hheld
      exact ⟨hnothing, hheld.settings, hheld.records⟩

/-- **So are the answers to any sequence of operations.** -/
theorem satisfies_performAll (admits : settings.Admits M D) {operations : List (GraphOperation τ)}
    (hstores : ∀ operation ∈ operations, ∀ store ∈ operation.store?, store.Fits M D keep) :
    Act.Yields (GraphWorld.Held settings keep) (fun answers => ∀ answer ∈ answers,
      answer.Satisfies M D) (performAll settings operations) := by
  induction operations with
  | nil => exact Act.yields_pure (by simp)
  | cons operation rest ih =>
      rw [List.forall_mem_cons] at hstores
      refine (satisfies_perform admits hstores.1).bind fun answer hanswer => ?_
      refine (ih hstores.2).bind fun later hlater => ?_
      exact Act.yields_pure (List.forall_mem_cons.mpr ⟨hanswer, hlater⟩)

end GraphOperation

end Perform

/-! ## Stores that write down what they record -/

/-- `M` holds of the messages of every error of the store. -/
def ReportStore.Speaks (M : String → Prop) (store : ReportStore τ) : Prop :=
  ∀ target report records error,
    ((store.record target report).run records).value = .error error →
      ∀ text ∈ error.messages, M text

theorem ReportStore.fits_logged {store : ReportStore τ} (h : store.Speaks M) :
    (store.logged Prod.mk).Fits M D fun records => ∀ call ∈ records.2, call.2.Satisfies M D where
  keeps := by
    rintro target report hreport ⟨records, calls⟩ hcalls call hcall
    rcases List.mem_append.mp hcall with hold | hnew
    · exact hcalls call hold
    · rw [List.mem_singleton.mp hnew]
      exact hreport
  refuses := fun target report records error herror => h target report records.1 error herror

/-- What comes of operations, and what was recorded on the way. -/
theorem GraphOperation.satisfies_logged (admits : settings.Admits M D)
    {operations : List (GraphOperation τ)}
    (hstores : ∀ operation ∈ operations, ∀ store ∈ operation.store?, store.Speaks M)
    (net : BoltNet) (records : τ) :
    let plain := (performAll settings operations).run ⟨[], net, records⟩
    let noted := (performAll settings (operations.map logged)).run ⟨[], net, (records, [])⟩
    (noted.value = plain.value ∧ noted.world.records.1 = plain.world.records) ∧
      (∀ answer ∈ plain.value, answer.Satisfies M D) ∧
      ∀ call ∈ noted.world.records.2, call.2.Satisfies M D := by
  intro plain noted
  obtain ⟨hvalue, hworld, _⟩ := alike_performAll_map (ReportStore.alike_logged Prod.mk) settings
    operations ⟨[], net, records⟩ ⟨[], net, (records, [])⟩ ⟨rfl, rfl, rfl⟩
  have hfits : ∀ operation ∈ operations.map logged, ∀ store ∈ operation.store?,
      store.Fits M D fun records => ∀ call ∈ records.2, call.2.Satisfies M D := by
    intro operation hoperation store hstore
    obtain ⟨source, hsource, rfl⟩ := List.mem_map.mp hoperation
    rw [logged, store?_map] at hstore
    obtain ⟨plain, hplain, rfl⟩ := Option.mem_map.mp hstore
    exact ReportStore.fits_logged (hstores source hsource plain hplain)
  obtain ⟨hanswers, hkept⟩ := satisfies_performAll admits hfits ⟨[], net, (records, [])⟩
    ⟨by simp, by simp⟩
  have hnoted : noted.value = plain.value := hvalue.symm
  refine ⟨⟨hnoted, hworld.records.symm⟩, ?_, hkept.records⟩
  rw [← hnoted]
  exact hanswers

end Preflight
