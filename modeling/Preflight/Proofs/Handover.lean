import Preflight.Proofs.Delivery
import Preflight.Proofs.Patch
import Preflight.Proofs.Succession

/-!
# A report is recorded once, as it is returned

A test has two halves that do not see each other: its steps act on a connection,
its delivery on a store. To tell in which order the two are used, both are put
into one world with one list beside it, in which every probe and every recording
writes itself down (`notedTest`). That nothing else comes of it is
`run_notedTest`, so the list is one of what the test itself does.

In the list of a test for a workflow, the report stands behind the probes, and
only there. What a store makes of it is up to the store; each of the three that
there are keeps the report that the test returns, two of them to the millisecond.

## Main results

* `notes_notedTest` — what a test does to its connection and its store.
* `report_recorded_as_returned` — the report of a test, the record in memory, the
  record in a directory and the patch for a catalog are the same.
-/

namespace Preflight

variable {σ τ δ : Type}

/-! ## Stores that write down what they record -/

namespace ReportStore

/-- The store that also writes down its calls, at the end of a list beside its world. -/
def logged (entry : Workflow → Report → δ) (store : ReportStore τ) : ReportStore (τ × List δ) where
  record target report := (store.record target report).logged fun _ => entry target report

/-- The store in a world with something else in front. -/
def onSecond (store : ReportStore τ) : ReportStore (σ × τ) where
  record target report := Act.onSecond (store.record target report)

end ReportStore

namespace Purpose

variable {τ' : Type}

/-- The purpose with another store. -/
def map (f : ReportStore τ → ReportStore τ') : Purpose τ → Purpose τ'
  | inline => inline
  | workflow target store => workflow target (f store)

theorem policy_map (f : ReportStore τ → ReportStore τ') (purpose : Purpose τ) :
    (purpose.map f).policy = purpose.policy := by
  cases purpose <;> rfl

/-- Delivery to alike stores is alike. -/
theorem alike_deliver {R : τ → τ' → Prop} (f : ReportStore τ → ReportStore τ')
    (hrecord : ∀ store : ReportStore τ, ∀ target report,
      Act.Alike R Eq (store.record target report) ((f store).record target report))
    (purpose : Purpose τ) (report : Report) :
    Act.Alike R Eq (purpose.deliver report) ((purpose.map f).deliver report) := by
  cases purpose with
  | inline => exact Act.alike_pure rfl
  | workflow target store =>
      refine (Act.alike_note _).bind fun _ _ _ => (hrecord store target report).bind ?_
      rintro answer _ rfl
      cases answer with
      | ok _ => exact Act.alike_pure rfl
      | error error => exact (Act.alike_note _).bind fun _ _ _ => Act.alike_pure rfl

end Purpose

theorem ReportStore.alike_logged (entry : Workflow → Report → δ) (store : ReportStore τ)
    (target : Workflow) (report : Report) :
    Act.Alike (fun (records : τ) (logged : τ × List δ) => records = logged.1) Eq
      (store.record target report) ((store.logged entry).record target report) := by
  rintro records ⟨_, entries⟩ rfl
  exact ⟨rfl, rfl, rfl⟩

/-! ## Tests that write down what they do -/

/-- What a test does to its connection and its store. -/
inductive TestDeed where
  | probed (step : String)
  | recorded (target : Workflow) (report : Report)

/-- The step in a world with a store in it, where its probe writes down its calls. -/
def Step.noted (step : Step σ) : Step ((σ × τ) × List TestDeed) where
  name := step.name
  dependsOn := step.dependsOn
  limitMicros := step.limitMicros
  probe := (Act.onFirst step.probe).logged fun _ => .probed step.name

theorem forall₂_alike_noted (steps : List (Step σ)) :
    List.Forall₂ (Step.Alike fun (world : σ) (noted : (σ × τ) × List TestDeed) =>
      world = noted.1.1) steps (steps.map Step.noted) := by
  rw [List.forall₂_map_right_iff, List.forall₂_same]
  intro step _
  refine ⟨rfl, rfl, rfl, ?_⟩
  rintro world ⟨⟨_, records⟩, deeds⟩ rfl
  exact ⟨rfl, rfl, rfl⟩

/-- The runner whose probes write down their calls, in a world with a store in it. -/
def Runner.noted (runner : Runner σ) : Runner ((σ × τ) × List TestDeed) where
  steps := runner.steps.map Step.noted
  accepted := by
    rw [← stepsFault?_eq_of_alike (forall₂_alike_noted runner.steps)]
    exact runner.accepted

/-- The purpose whose store writes down its calls, in a world with a connection in it. -/
def Purpose.noted (purpose : Purpose τ) : Purpose ((σ × τ) × List TestDeed) :=
  purpose.map fun store => store.onSecond.logged .recorded

/-- A test in one world, with a list beside it of what is done to the connection and the store. -/
def notedTest (runner : Runner σ) (service : String) (purpose : Purpose τ) (stamp : Timestamp) :
    Act ((σ × τ) × List TestDeed) (Except CheckError (Option Report)) := do
  let (report, _) ← runner.noted.run service purpose.policy stamp
  purpose.noted.deliver report

/-- The probes of calls, as a list of what was done. -/
def probedBy (calls : List Call) : List TestDeed := calls.map fun call => .probed call.name

/-- A watched run and the same run in a world with a store in it, which stays as it is. -/
def Noted (records : τ) (watched : σ × List Call) (noted : (σ × τ) × List TestDeed) : Prop :=
  noted.1 = (watched.1, records) ∧ noted.2 = probedBy watched.2

theorem forall₂_alike_watched_noted (steps : List (Step σ)) (records : τ) :
    List.Forall₂ (Step.Alike (Noted records)) (steps.map Step.watched)
      (steps.map Step.noted) := by
  rw [List.forall₂_map_left_iff, List.forall₂_map_right_iff, List.forall₂_same]
  intro step _
  refine ⟨rfl, rfl, rfl, ?_⟩
  rintro ⟨world, calls⟩ ⟨_, deeds⟩ ⟨rfl, rfl⟩
  refine ⟨rfl, ⟨rfl, ?_⟩, rfl⟩
  show probedBy calls ++ [.probed step.name] = probedBy (calls ++ [_])
  rw [probedBy, probedBy, List.map_append, List.map_singleton]

section NotedTest

variable (runner : Runner σ) (service : String) (stamp : Timestamp) (world : σ) (records : τ)

/-- What a noted run leaves behind: the report and the world of the run, the store as it was, and
the list of its calls. -/
theorem run_noted (policy : RunPolicy) :
    let done := (runner.noted.run service policy stamp).run ((world, records), [])
    done.value.1 = runner.report service policy stamp world ∧
      done.world = ((((runner.run service policy stamp).run world).world, records),
        probedBy (runner.calls service policy stamp world)) ∧
      done.events = ((runner.run service policy stamp).run world).events := by
  intro done
  obtain ⟨hvalue, ⟨hworld, hdeeds⟩, hevents⟩ :=
    Runner.alike_run runner.watched runner.noted service policy stamp
      (forall₂_alike_watched_noted runner.steps records) (world, []) ((world, records), [])
      ⟨rfl, rfl⟩
  obtain ⟨hvalue', hworld', hevents'⟩ :=
    Runner.alike_run runner runner.watched service policy stamp
      (forall₂_alike_watched runner.steps) world (world, []) rfl
  refine ⟨?_, ?_, hevents.symm.trans hevents'.symm⟩
  · rw [Runner.report, hvalue', hvalue]
  · rw [hworld']
    exact Prod.ext hworld hdeeds

/-- To note what a test does changes nothing in what it does. -/
theorem run_notedTest (purpose : Purpose τ) :
    let noted := (notedTest runner service purpose stamp).run ((world, records), [])
    let done := (testSteps runner service purpose stamp).run (world, records)
    noted.value = done.value ∧ noted.world.1 = done.world ∧ noted.events = done.events := by
  intro noted done
  obtain ⟨hreport, hworld, hevents⟩ := run_noted runner service stamp world records purpose.policy
  have hrecord : ∀ store : ReportStore τ, ∀ target report,
      Act.Alike (fun (records : τ) (noted : (σ × τ) × List TestDeed) =>
          noted.1 = (((runner.run service purpose.policy stamp).run world).world, records)) Eq
        (store.record target report) ((store.onSecond.logged .recorded).record target report) := by
    rintro store target report records ⟨_, deeds⟩ rfl
    exact ⟨rfl, rfl, rfl⟩
  obtain ⟨hvalue', hworld', hevents'⟩ := purpose.alike_deliver _ hrecord
    (runner.report service purpose.policy stamp world) records (_, probedBy _) rfl
  have hnoted : noted = ⟨_, _, _⟩ := Act.run_bind _ _ _
  rw [hnoted]
  simp only [hreport, hworld, hevents]
  refine ⟨hvalue'.symm, hworld', ?_⟩
  rw [Purpose.noted, ← hevents']
  rfl

/-- What a purpose has done with a report, apart from handing it back. -/
def Purpose.recordings (report : Report) : Purpose τ → List TestDeed
  | inline => []
  | workflow target _ => [.recorded target report]

theorem notes_deliver (purpose : Purpose τ) (report : Report) (world : σ × τ)
    (deeds : List TestDeed) :
    ((purpose.noted.deliver report).run (world, deeds)).world.2 =
      deeds ++ purpose.recordings report := by
  cases purpose with
  | inline => exact (List.append_nil deeds).symm
  | workflow target store =>
      rw [Purpose.noted, Purpose.map, Purpose.deliver]
      simp only [Act.run_bind, Act.run_note]
      generalize hrecorded : ((store.onSecond.logged TestDeed.recorded).record target report).run
        (world, deeds) = recorded
      have hdeeds : recorded.world.2 = deeds ++ [.recorded target report] := by
        rw [← hrecorded]
        rfl
      cases recorded.value with
      | ok _ => exact hdeeds
      | error error => exact hdeeds

/-- **What a test does**: it calls its probes, and then it records its report once, or not at all
if there is no workflow. -/
theorem notes_notedTest (purpose : Purpose τ) :
    ((notedTest runner service purpose stamp).run ((world, records), [])).world.2 =
      probedBy (runner.calls service purpose.policy stamp world) ++
        purpose.recordings (runner.report service purpose.policy stamp world) := by
  obtain ⟨hreport, hworld, _⟩ := run_noted runner service stamp world records purpose.policy
  rw [notedTest, Act.run_bind]
  dsimp only
  rw [hworld, hreport, notes_deliver]

end NotedTest

/-! ## The records -/

/-- The times of a run are numbers of 64 bits. -/
theorem Course.elapsedMs_lt {policy : RunPolicy} {settled : List (String × StepStatus)}
    {steps : List (Step σ)} {calls : List Call} {results : List StepResult}
    (course : Course policy settled steps calls results) :
    ∀ result ∈ results, result.elapsedMs < Numeral.wordBound := by
  have hlt : ∀ (step : Step σ) attempt, (step.result attempt).elapsedMs < Numeral.wordBound := by
    intro step attempt
    have hmin : (step.result attempt).elapsedMs ≤ Runner.greatestMs := by
      unfold Step.result Runner.resultOf
      dsimp only
      split <;> exact Nat.min_le_right _ _
    have hbound : Runner.greatestMs < Numeral.wordBound := by decide
    omega
  induction course with
  | done => simp
  | skip dependency _ _ ih =>
      intro result hresult
      rcases List.mem_cons.mp hresult with rfl | hresult
      · show 0 < Numeral.wordBound
        decide
      · exact ih result hresult
  | @halt _ step _ attempt _ _ _ =>
      intro result hresult
      obtain rfl := List.mem_singleton.mp hresult
      exact hlt step attempt
  | @call _ step _ _ _ attempt _ _ _ ih =>
      intro result hresult
      rcases List.mem_cons.mp hresult with rfl | hresult
      · exact hlt step attempt
      · exact ih result hresult

theorem Runner.inWords_report (runner : Runner σ) (service : String) (policy : RunPolicy)
    (stamp : Timestamp) (world : σ) : (runner.report service policy stamp world).InWords :=
  (runner.course_report service policy stamp world).elapsedMs_lt

section Records

variable (target : Workflow) (report : Report)

/-- A report in memory is found under its workflow. -/
theorem MemoryRecords.get?_record (records : MemoryRecords) :
    let done := (store.record target report).run records
    done.value = .ok () ∧ done.world.get? target.id = some ⟨target, report⟩ := by
  refine ⟨rfl, ?_⟩
  show (records.insert ⟨target, report⟩).get? target.id = _
  rw [get?, insert, lookup_put, if_pos rfl]

/-- A report in a directory is loaded under its workflow, to the millisecond. -/
theorem DirectoryStore.load_record (store : DirectoryStore) {files : Files}
    (hrooted : files.Rooted) (hwords : report.InWords)
    (hok : ((store.record target report).run files).value = .ok ()) :
    store.load ((store.record target report).run files).world target.id =
      .ok (some ⟨target, report.wholeMillis⟩) := by
  let record : WorkflowRecord := ⟨target, report⟩
  have haccepts : store.Accepts files record.workflow.id := by
    rw [value_record] at hok
    exact (performAll_eq_ok_iff hrooted record).mp hok
  obtain ⟨after, hrun, hstands, hshelf⟩ := haccepts.performAll
  rw [world_record, hrun, hstands.open.load_eq, hshelf, shelved_record]
  exact loadEntry_document hwords record.workflow.id

/-- What is sent to a catalog for a report are patches that carry it, and at least one if the catalog
accepts it. -/
theorem CatalogStore.carriesReport_record (store : CatalogStore) (web : Web)
    (hwords : report.InWords) :
    let done := (store.record target report).run web
    ∃ sent, done.world.seen = web.seen ++ sent ∧
      (∀ request body, .request request ∈ sent → request.body = some body →
        CarriesReport body report) ∧
      (done.value = .ok () →
        ∃ request body, .request request ∈ sent ∧ request.method = "PATCH" ∧
          request.body = some body) := by
  intro done
  obtain ⟨sent, hsent, honly, hok⟩ := store.shows_record target report web
  refine ⟨sent, hsent, ?_, ?_⟩
  · intro request body hrequest hbody
    rcases honly request hrequest with hnone | hpatch
    · rw [hnone] at hbody
      cases hbody
    · rw [hpatch, Option.some.injEq] at hbody
      rw [← hbody]
      exact carriesReport_patch hwords
  · intro haccepts
    obtain ⟨request, hrequest, hmethod, hbody⟩ := hok haccepts
    exact ⟨request, _, hrequest, hmethod, hbody⟩

end Records

/-- What a delivery for a workflow comes to, by what the store makes of the report. -/
theorem Purpose.run_deliver_workflow (target : Workflow) (store : ReportStore τ) (report : Report)
    (records : τ) :
    let recording := (store.record target report).run records
    let done := ((Purpose.workflow target store).deliver report).run records
    done.value = recording.value.map (fun _ => some report) ∧ done.world = recording.world := by
  intro recording done
  simp only [done, Purpose.deliver, Act.run_bind, Act.run_note]
  cases ((store.record target report).run records).value with
  | ok _ => exact ⟨rfl, rfl⟩
  | error error => exact ⟨rfl, rfl⟩

/-- What a test for a workflow comes to, by what the store makes of its report. -/
theorem run_testSteps_workflow (runner : Runner σ) (service : String) (stamp : Timestamp)
    (world : σ) (target : Workflow) (store : ReportStore τ) (records : τ) :
    let report := runner.report service .collectAll stamp world
    let recording := (store.record target report).run records
    let done := (testSteps runner service (.workflow target store) stamp).run (world, records)
    done.value = recording.value.map (fun _ => some report) ∧ done.world.2 = recording.world :=
  Purpose.run_deliver_workflow target store _ records

/-- **A report is recorded once, as it is returned.** To note what a test does to
its connection and its store changes nothing. A test for a workflow calls its
probes and then, whatever its verdict, has its report recorded, which is all that
happens to the store; it returns that report if the store accepts it, and the
error of the store if not. Inline, nothing is recorded.

What the stores keep of a report they accept is the one returned: in memory as it
is; in a directory, where it is loaded again, and in the bodies sent to a catalog
without what is below a millisecond in its times. -/
theorem report_recorded_as_returned (runner : Runner σ) (service : String) (target : Workflow)
    (stamp : Timestamp) (world : σ) :
    let report := runner.report service .collectAll stamp world
    (∀ (τ : Type) (purpose : Purpose τ) (records : τ),
      let noted := (notedTest runner service purpose stamp).run ((world, records), [])
      let done := (testSteps runner service purpose stamp).run (world, records)
      noted.value = done.value ∧ noted.world.1 = done.world ∧ noted.events = done.events) ∧
    (∀ (τ : Type) (store : ReportStore τ) (records : τ),
      let noted := (notedTest runner service (.workflow target store) stamp).run
        ((world, records), [])
      let done := (testSteps runner service (.workflow target store) stamp).run (world, records)
      let recording := (store.record target report).run records
      noted.world.2 = probedBy (runner.calls service .collectAll stamp world) ++
          [.recorded target report] ∧
        done.world.2 = recording.world ∧
        (recording.value = .ok () → done.value = .ok (some report)) ∧
        ∀ error, recording.value = .error error → done.value = .error error) ∧
    (∀ (τ : Type) (records : τ),
      let noted := (notedTest runner service .inline stamp).run ((world, records), [])
      let done := (testSteps runner service .inline stamp).run (world, records)
      noted.world.2 = probedBy (runner.calls service .failFast stamp world) ∧
        done.world.2 = records) ∧
    (∀ records : MemoryRecords,
      let done := (testSteps runner service (.workflow target MemoryRecords.store) stamp).run
        (world, records)
      done.value = .ok (some report) ∧ done.world.2.get? target.id = some ⟨target, report⟩) ∧
    (∀ (store : DirectoryStore) (files : Files), files.Rooted →
      let done := (testSteps runner service (.workflow target store.reportStore) stamp).run
        (world, files)
      ((store.record target report).run files).value = .ok () →
        store.load done.world.2 target.id = .ok (some ⟨target, report.wholeMillis⟩)) ∧
    ∀ (store : CatalogStore) (web : Web),
      let done := (testSteps runner service (.workflow target store.reportStore) stamp).run
        (world, web)
      ∃ sent, done.world.2.seen = web.seen ++ sent ∧
        (∀ request body, .request request ∈ sent → request.body = some body →
          CarriesReport body report) ∧
        (((store.record target report).run web).value = .ok () →
          ∃ request body, .request request ∈ sent ∧ request.method = "PATCH" ∧
            request.body = some body) := by
  intro report
  have hwords : report.InWords := runner.inWords_report service .collectAll stamp world
  refine ⟨?_, ?_, ?_, ?_, ?_, ?_⟩
  · intro τ purpose records
    exact run_notedTest runner service stamp world records purpose
  · intro τ store records noted done recording
    obtain ⟨hvalue, hworld⟩ :=
      run_testSteps_workflow runner service stamp world target store records
    refine ⟨?_, hworld, ?_, ?_⟩
    · exact notes_notedTest runner service stamp world records (.workflow target store)
    · intro hok
      show done.value = _
      rw [hvalue, hok]
      rfl
    · intro error herror
      show done.value = _
      rw [hvalue, herror]
      rfl
  · intro τ records noted done
    refine ⟨?_, rfl⟩
    show noted.world.2 = _
    rw [notes_notedTest runner service stamp world records .inline]
    exact List.append_nil _
  · intro records done
    obtain ⟨hvalue, hworld⟩ :=
      run_testSteps_workflow runner service stamp world target MemoryRecords.store records
    obtain ⟨haccepted, hkept⟩ := MemoryRecords.get?_record target report records
    refine ⟨?_, ?_⟩
    · show done.value = _
      rw [hvalue, haccepted]
      rfl
    · rw [← hworld] at hkept
      exact hkept
  · intro store files hrooted done haccepts
    obtain ⟨_, hworld⟩ :=
      run_testSteps_workflow runner service stamp world target store.reportStore files
    have hload := store.load_record target report hrooted hwords haccepts
    show store.load done.world.2 target.id = _
    rw [hworld]
    exact hload
  · intro store web done
    obtain ⟨_, hworld⟩ :=
      run_testSteps_workflow runner service stamp world target store.reportStore web
    obtain ⟨sent, hsent, hcarries, haccepted⟩ :=
      store.carriesReport_record target report web hwords
    refine ⟨sent, ?_, hcarries, haccepted⟩
    show done.world.2.seen = _
    rw [hworld]
    exact hsent

theorem report_recorded_as_returned_slowUsers :
    let store : DirectoryStore := ⟨"store"⟩
    let report := slowUsersCheck.report "Neo4j" .collectAll .epoch 0
    let noted := (notedTest slowUsersCheck "Neo4j"
      (.workflow ⟨⟨1⟩, "nightly"⟩ store.reportStore) .epoch).run ((0, ({} : Files)), [])
    (({} : Files).Rooted ∧ ((store.record ⟨⟨1⟩, "nightly"⟩ report).run {}).value = .ok ()) ∧
      report.verdict = .failed ∧
      noted.value = .ok (some report) ∧
      noted.world.2 = [.probed "CheckAccess", .probed "GetUsers", .probed "GetOwners",
        .recorded ⟨⟨1⟩, "nightly"⟩ report] ∧
      store.load noted.world.1.2 ⟨1⟩ = .ok (some ⟨⟨⟨1⟩, "nightly"⟩, report.wholeMillis⟩) := by
  intro store report noted
  have haccepts : ((store.record ⟨⟨1⟩, "nightly"⟩ report).run {}).value = .ok () := by
    rw [DirectoryStore.value_record]
    exact (DirectoryStore.performAll_eq_ok_iff Files.rooted_empty _).mpr
      (DirectoryStore.accepts_empty store _)
  obtain ⟨hsame, hworkflow, _, _, hdirectory, _⟩ :=
    report_recorded_as_returned slowUsersCheck "Neo4j" ⟨⟨1⟩, "nightly"⟩ .epoch 0
  obtain ⟨hvalue, hworld, _⟩ := hsame Files (.workflow _ store.reportStore) {}
  obtain ⟨hdeeds, _, hok, _⟩ := hworkflow Files store.reportStore {}
  have hload := hdirectory store {} Files.rooted_empty haccepts
  rw [← hworld] at hload
  exact ⟨⟨Files.rooted_empty, haccepts⟩, by decide, hvalue.trans (hok haccepts), hdeeds.trans rfl,
    hload⟩

end Preflight
