import Preflight.Proofs.FirstFailure
import Preflight.Store.Memory

/-!
# The same failure in both modes

Inline, a bad report becomes an error; for a workflow it is recorded as it is.
The two modes run the steps under different policies, so the error is made from
another report than the one that is recorded. It still names the first failure of
the recorded one, since both policies find the same (`failFast_firstFailure?`).

An inline error can be made from any report, so it has a default for everything
that a report may lack. A report of a run lacks nothing: if it is bad, a step in
it has failed, and a failed step shows a kind and a message (`NamesFailure`).

## Main results

* `Runner.exists_namesFailure` — a bad report of a run names its failure.
* `inline_agrees_with_workflow` — both modes come to the same verdict, and the
  inline error is the first failure of the recorded report.
-/

namespace Preflight

variable {σ τ : Type}

/-! ## Reports that name their failure -/

/-- The report has a first failure, which shows a kind and a message. -/
structure NamesFailure (report : Report) (culprit : StepResult) (kind : FailureKind)
    (message : String) : Prop where
  first : report.firstFailure? = some culprit
  kind : culprit.kind = some kind
  message : culprit.message = some message

/-- The error made from a report that names its failure is that failure; none of
the defaults is used. -/
theorem NamesFailure.inlineFailure_eq {report : Report} {culprit : StepResult}
    {kind : FailureKind} {message : String} (h : NamesFailure report culprit kind message) :
    Purpose.inlineFailure report = .checkFailed culprit.name kind message := by
  simp only [Purpose.inlineFailure, h.first, Option.some_or, h.kind, h.message, Option.getD_some]

/-- Whoever finds the same failure names the same, be it found sooner or later. -/
theorem NamesFailure.of_sameFailure {report report' : Report} {culprit : StepResult}
    {kind : FailureKind} {message : String} (h : NamesFailure report culprit kind message)
    (hsame : report'.firstFailure?.map StepResult.untimed =
      report.firstFailure?.map StepResult.untimed) :
    ∃ culprit', culprit'.name = culprit.name ∧ NamesFailure report' culprit' kind message := by
  rw [h.first, Option.map_some, Option.map_eq_some_iff] at hsame
  obtain ⟨culprit', hfirst, huntimed⟩ := hsame
  have hname : culprit'.untimed.name = culprit.untimed.name := by rw [huntimed]
  have hkind : culprit'.untimed.kind = culprit.untimed.kind := by rw [huntimed]
  have hmessage : culprit'.untimed.message = culprit.untimed.message := by rw [huntimed]
  exact ⟨culprit', hname, hfirst, hkind.trans h.kind, hmessage.trans h.message⟩

/-- Every failed result of a run shows what its probe, or its bound, said. -/
theorem Course.kind_message_of_failed {policy : RunPolicy} {settled : List (String × StepStatus)}
    {steps : List (Step σ)} {calls : List Call} {results : List StepResult}
    (course : Course policy settled steps calls results) :
    ∀ result ∈ results, result.status = .failed →
      ∃ kind message, result.kind = some kind ∧ result.message = some message := by
  induction course with
  | done => simp
  | skip dependency _ _ ih =>
      intro result hresult hfailed
      rcases List.mem_cons.mp hresult with rfl | hresult
      · cases hfailed
      · exact ih result hresult hfailed
  | @halt _ step _ attempt _ _ _ =>
      intro result hresult hfailed
      obtain rfl := List.mem_singleton.mp hresult
      exact (step.tells_result attempt).of_failed hfailed
  | @call _ step _ _ _ attempt _ _ _ ih =>
      intro result hresult hfailed
      rcases List.mem_cons.mp hresult with rfl | hresult
      · exact (step.tells_result attempt).of_failed hfailed
      · exact ih result hresult hfailed

/-- **A bad report of a run names its failure**, under either policy. -/
theorem Runner.exists_namesFailure (runner : Runner σ) (service : String) (policy : RunPolicy)
    (stamp : Timestamp) (world : σ)
    (hbad : (runner.report service policy stamp world).verdict ≠ .successful) :
    ∃ culprit kind message,
      NamesFailure (runner.report service policy stamp world) culprit kind message := by
  rw [ne_eq, runner.verdict_report_iff_firstFailure?, ← ne_eq, Option.ne_none_iff_exists'] at hbad
  obtain ⟨culprit, hfirst⟩ := hbad
  have hfailed : culprit.status = .failed := by simpa using List.find?_some hfirst
  obtain ⟨kind, message, hkind, hmessage⟩ :=
    (runner.course_report service policy stamp world).kind_message_of_failed culprit
      (List.mem_of_find?_eq_some hfirst) hfailed
  exact ⟨culprit, kind, message, hfirst, hkind, hmessage⟩

/-! ## What a test is answered with -/

section Answer

variable (runner : Runner σ) (service : String) (stamp : Timestamp) (world : σ) (records : τ)

theorem value_testSteps_inline :
    ((testSteps runner service .inline stamp).run (world, records)).value =
      if (runner.report service .failFast stamp world).isSuccess then .ok none
      else .error (Purpose.inlineFailure (runner.report service .failFast stamp world)) := rfl

/-- Inline, a good report is dropped. -/
theorem inline_eq_ok_none_iff :
    ((testSteps runner service .inline stamp).run (world, records)).value = .ok none ↔
      (runner.report service .failFast stamp world).verdict = .successful := by
  rw [value_testSteps_inline, Report.isSuccess]
  by_cases hgood : (runner.report service .failFast stamp world).verdict = .successful
  · simp [hgood]
  · simp [hgood]

/-- Inline, a bad report becomes the failure that it names. -/
theorem inline_eq_error_of_namesFailure {culprit : StepResult} {kind : FailureKind}
    {message : String}
    (h : NamesFailure (runner.report service .failFast stamp world) culprit kind message) :
    ((testSteps runner service .inline stamp).run (world, records)).value =
      .error (.checkFailed culprit.name kind message) := by
  have hbad : (runner.report service .failFast stamp world).verdict ≠ .successful := by
    rw [ne_eq, runner.verdict_report_iff_firstFailure?, h.first]
    simp
  rw [value_testSteps_inline, h.inlineFailure_eq]
  simp [Report.isSuccess, hbad]

/-- For a workflow, the answer is up to the store alone. -/
theorem workflow_eq_map_record (target : Workflow) (store : ReportStore τ) :
    ((testSteps runner service (.workflow target store) stamp).run (world, records)).value =
      ((store.record target (runner.report service .collectAll stamp world)).run
        records).value.map fun _ => some (runner.report service .collectAll stamp world) := by
  have hvalue : ((testSteps runner service (.workflow target store) stamp).run
      (world, records)).value =
        (((Purpose.workflow target store).deliver
          (runner.report service .collectAll stamp world)).run records).value := rfl
  rw [hvalue, Purpose.deliver]
  simp only [Act.run_bind, Act.run_note]
  generalize (store.record target (runner.report service .collectAll stamp world)).run records =
    recorded
  cases recorded.value with
  | ok _ => rfl
  | error error => rfl

end Answer

/-- **Both modes tell the same failure.** On the same outcomes and with a store
that accepts the report, inline delivery is content exactly if the recorded
report is good; if it is not, the error consists of the name, the kind and the
message of the first failure in that report. The defaults for an error without
them are out of reach, for the report of any run names its failure. -/
theorem inline_agrees_with_workflow (runner : Runner σ) (service : String)
    (stamp stamp' : Timestamp) (world world' : σ) (records records' : τ) (target : Workflow)
    (store : ReportStore τ)
    (hsame : SameOutcomes runner.steps (runner.calls service .failFast stamp world)
      (runner.calls service .collectAll stamp' world'))
    (haccepts : ((store.record target (runner.report service .collectAll stamp' world')).run
      records').value = .ok ()) :
    let recorded := runner.report service .collectAll stamp' world'
    let inline :=
      ((testSteps runner service (.inline : Purpose τ) stamp).run (world, records)).value
    let workflow :=
      ((testSteps runner service (.workflow target store) stamp').run (world', records')).value
    workflow = .ok (some recorded) ∧
      (inline = .ok none ↔ recorded.verdict = .successful) ∧
      (recorded.verdict ≠ .successful → ∃ culprit kind message,
        NamesFailure recorded culprit kind message ∧
          inline = .error (.checkFailed culprit.name kind message)) ∧
      ∀ policy stamp world, (runner.report service policy stamp world).verdict ≠ .successful →
        ∃ culprit kind message,
          NamesFailure (runner.report service policy stamp world) culprit kind message := by
  intro recorded inline workflow
  refine ⟨?_, ?_, ?_, runner.exists_namesFailure service⟩
  · have hanswer := workflow_eq_map_record runner service stamp' world' records' target store
    rw [haccepts] at hanswer
    exact hanswer
  · rw [← runner.failFast_verdict service hsame]
    exact inline_eq_ok_none_iff runner service stamp world records
  · intro hbad
    obtain ⟨culprit, kind, message, hnames⟩ :=
      runner.exists_namesFailure service .collectAll stamp' world' hbad
    obtain ⟨culprit', hname, hnames'⟩ :=
      hnames.of_sameFailure (runner.failFast_firstFailure? service hsame)
    refine ⟨culprit, kind, message, hnames, ?_⟩
    rw [← hname]
    exact inline_eq_error_of_namesFailure runner service stamp world records hnames'

theorem inline_agrees_with_workflow_slowUsers :
    SameOutcomes slowUsersCheck.steps (slowUsersCheck.calls "Neo4j" .failFast .epoch 0)
        (slowUsersCheck.calls "Neo4j" .collectAll .epoch 7) ∧
      ((MemoryRecords.store.record ⟨⟨1⟩, "nightly"⟩
        (slowUsersCheck.report "Neo4j" .collectAll .epoch 7)).run {}).value = .ok () ∧
      ((testSteps slowUsersCheck "Neo4j" .inline .epoch).run (0, ({} : MemoryRecords))).value =
        .error (.checkFailed "GetUsers" .timeout (Step.timeoutFailure 5000).message) := by
  have hsame : SameOutcomes slowUsersCheck.steps
      (slowUsersCheck.calls "Neo4j" .failFast .epoch 0)
      (slowUsersCheck.calls "Neo4j" .collectAll .epoch 7) :=
    slowUsersCheck.sameOutcomes_of_answers "Neo4j" slowUsersCheck_answers
  refine ⟨hsame, rfl, ?_⟩
  obtain ⟨_, _, herror, _⟩ := inline_agrees_with_workflow slowUsersCheck "Neo4j" .epoch .epoch 0 7
    ({} : MemoryRecords) {} ⟨⟨1⟩, "nightly"⟩ MemoryRecords.store hsame rfl
  obtain ⟨culprit, kind, message, hnames, hinline⟩ := herror (by decide)
  have hfirst : (slowUsersCheck.report "Neo4j" .collectAll .epoch 7).firstFailure? =
      some (.failed "GetUsers" (Step.timeoutFailure 5000) 5) := rfl
  obtain rfl : culprit = .failed "GetUsers" (Step.timeoutFailure 5000) 5 :=
    Option.some.inj (hnames.first.symm.trans hfirst)
  obtain rfl : kind = .timeout := Option.some.inj hnames.kind.symm
  obtain rfl : message = (Step.timeoutFailure 5000).message := Option.some.inj hnames.message.symm
  exact hinline

end Preflight
