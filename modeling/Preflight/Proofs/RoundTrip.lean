import Preflight.Proofs.Identifier
import Preflight.Proofs.Json.Decoding
import Preflight.Proofs.Json.Reading
import Preflight.Workflow

/-!
# Reports and records are read back

What is written for a report or for the record of a workflow is read back as it
was, from the compact and from the pretty form. The reader of a text and the
decoders of its value meet in the document between them: the one finds the value
that was written, whichever form it was written in, and the others give the same
answer for every document of that value.

Two things do not survive in general. An elapsed time is a number of 64 bits, and
one that is larger is not read back as the same (`Report.InWords` excludes it). A
point in time is written in whole milliseconds, so what comes back is the report
to the millisecond (`Report.wholeMillis`).

## Main results

* `WorkflowRecord.decodeText_pretty` — the document of a record is read back, to
  the millisecond.
* `written_forms_read_back` — records and reports at whole milliseconds are read
  back as they were.
-/

namespace Preflight

/-! ## The parts of a record -/

theorem StepStatus.lookup_known (status : StepStatus) :
    StepStatus.known.lookup status.wireName = some status := by
  cases status <;> decide

theorem Verdict.lookup_known (verdict : Verdict) :
    Verdict.known.lookup verdict.wireName = some verdict := by
  cases verdict <;> decide

theorem FailureKind.lookup_known (kind : FailureKind) :
    FailureKind.known.lookup kind.wireName = some kind := by
  cases kind <;> decide

namespace Decoder

theorem reads_optionalString (s : Option String) : Reads (optional string) (.ofOption s) s := by
  cases s with
  | none => exact reads_optional_none string
  | some s => exact reads_optional_some (reads_string s)

theorem reads_optionalKind (kind : Option FailureKind) :
    Reads (optional FailureKind.decode) (.ofOption (kind.map FailureKind.wireName)) kind := by
  cases kind with
  | none => exact reads_optional_none FailureKind.decode
  | some kind => exact reads_optional_some (reads_choice kind.lookup_known)

end Decoder

theorem StepResult.reads_toJson (step : StepResult) :
    Decoder.Reads StepResult.decode step.toJson step := by
  have hfills : RecordForm.Fills slots {}
      [("name", .string step.name), ("status", .string step.status.wireName),
        ("message", .ofOption step.message),
        ("kind", .ofOption (step.kind.map FailureKind.wireName)),
        ("errorLog", .ofOption step.errorLog), ("elapsedMs", .ofNat step.elapsedMs)]
      ⟨some step.name, some step.status, some step.message, some step.kind, some step.errorLog,
        some step.elapsedMs⟩ := by
    refine .field rfl rfl ((Decoder.reads_string step.name).map _) ?_
    refine .field rfl rfl ((Decoder.reads_choice step.status.lookup_known).map _) ?_
    refine .field rfl rfl ((Decoder.reads_optionalString step.message).map _) ?_
    refine .field rfl rfl ((Decoder.reads_optionalKind step.kind).map _) ?_
    refine .field rfl rfl ((Decoder.reads_optionalString step.errorLog).map _) ?_
    exact .field rfl rfl ((Decoder.reads_word step.elapsedMs).map _) (.done _)
  exact RecordForm.reads_decode hfills rfl

/-- A point in time is read back without what passed since its millisecond began. -/
theorem Timestamp.reads_toJson (t : Timestamp) :
    Decoder.Reads Timestamp.decode t.toJson t.wholeMillis := by
  intro doc h
  have hle := t.le_greatest
  rw [toJson, Json.ofInt] at h
  split at h
  · rename_i hneg
    have hmillis : -(t.millis.natAbs : Int) = t.millis := by omega
    cases doc.holds_of_toJson h with
    | number => simp only [decode, ofWritten, hmillis, ofMillis?_wholeMillis]
  · rename_i hpos
    have hmillis : signedWord t.millis.natAbs = t.millis := by
      rw [signedWord, if_pos (by omega)]
      omega
    cases doc.holds_of_toJson h with
    | number => simp only [decode, ofWritten, hmillis, ofMillis?_wholeMillis]

/-- The report as its document keeps it, to the millisecond. -/
def Report.wholeMillis (report : Report) : Report :=
  { report with updatedAt := report.updatedAt.wholeMillis }

/-- A report is read off its members, in whatever form its steps are written. -/
theorem Report.reads_members (report : Report) {write : StepResult → Json}
    (hwrite : ∀ step ∈ report.steps, Decoder.Reads StepResult.decode (write step) step) :
    Decoder.Reads Report.decode
      (.object
        [("service", .string report.service), ("status", .string report.verdict.wireName),
          ("steps", .array (report.steps.map write)), ("lastUpdatedAt", report.updatedAt.toJson)])
      report.wholeMillis := by
  have hfills : RecordForm.Fills slots {}
      [("service", .string report.service), ("status", .string report.verdict.wireName),
        ("steps", .array (report.steps.map write)),
        ("lastUpdatedAt", report.updatedAt.toJson)]
      ⟨some report.service, some report.verdict, some report.steps,
        some report.updatedAt.wholeMillis⟩ := by
    refine .field rfl rfl ((Decoder.reads_string report.service).map _) ?_
    refine .field rfl rfl ((Decoder.reads_choice report.verdict.lookup_known).map _) ?_
    refine .field rfl rfl ((Decoder.reads_list hwrite).map _) ?_
    exact .field rfl rfl (report.updatedAt.reads_toJson.map _) (.done _)
  exact RecordForm.reads_decode hfills rfl

theorem Report.reads_toJson (report : Report) :
    Decoder.Reads Report.decode report.toJson report.wholeMillis :=
  report.reads_members fun step _ => step.reads_toJson

theorem Workflow.reads_toJson (workflow : Workflow) :
    Decoder.Reads Workflow.form.decode workflow.toJson workflow := by
  have hid : Decoder.Reads decodeId (.string workflow.id.text) workflow.id :=
    Decoder.reads_ofString (by rw [workflow.id.parse_text])
  have hfills : RecordForm.Fills slots {}
      [("id", .string workflow.id.text), ("name", .string workflow.name)]
      ⟨some workflow.id, some workflow.name⟩ := by
    refine .field rfl rfl (hid.map _) ?_
    exact .field rfl rfl ((Decoder.reads_string workflow.name).map _) (.done _)
  exact RecordForm.reads_decode hfills rfl

/-- The record as its document keeps it, to the millisecond. -/
def WorkflowRecord.wholeMillis (record : WorkflowRecord) : WorkflowRecord :=
  { record with response := record.response.wholeMillis }

theorem WorkflowRecord.reads_toJson (record : WorkflowRecord) :
    Decoder.Reads WorkflowRecord.decode record.toJson record.wholeMillis := by
  have hstatus : Decoder.Reads (Decoder.choice [(completedName, ())]) (.string completedName) () :=
    Decoder.reads_choice rfl
  have hfills : RecordForm.Fills slots {}
      [("workflow", record.workflow.toJson), ("status", .string completedName),
        ("response", record.response.toJson)]
      ⟨some record.workflow, some (), some record.response.wholeMillis⟩ := by
    refine .field rfl rfl (record.workflow.reads_toJson.map _) ?_
    refine .field rfl rfl (hstatus.map _) ?_
    exact .field rfl rfl (record.response.reads_toJson.map _) (.done _)
  exact RecordForm.reads_decode hfills rfl

/-! ## Numbers of 64 bits -/

/-- Every elapsed time is a number of 64 bits. -/
def Report.InWords (report : Report) : Prop :=
  ∀ step ∈ report.steps, step.elapsedMs < Numeral.wordBound

theorem Json.inWords_ofOption (s : Option String) : (ofOption s).InWords := by
  cases s with
  | none => exact .null
  | some s => exact .string s

theorem StepResult.inWords_toJson {step : StepResult} (h : step.elapsedMs < Numeral.wordBound) :
    step.toJson.InWords := by
  apply Json.InWords.object
  simp only [List.forall_mem_cons, List.not_mem_nil, false_implies, implies_true, and_true]
  exact ⟨.string _, .string _, Json.inWords_ofOption _, Json.inWords_ofOption _,
    Json.inWords_ofOption _, .number h⟩

theorem Timestamp.inWords_toJson (t : Timestamp) : t.toJson.InWords := by
  have hleast := t.least_le
  have hgreatest := t.le_greatest
  rw [toJson, Json.ofInt]
  split
  · refine .number ⟨?_, ?_⟩ <;> omega
  · refine .number ?_
    rw [JsonNumber.IsWord, Numeral.wordBound]
    omega

theorem Report.InWords.toJson {report : Report} (h : report.InWords) : report.toJson.InWords := by
  apply Json.InWords.object
  simp only [List.forall_mem_cons, List.not_mem_nil, false_implies, implies_true, and_true]
  refine ⟨.string _, .string _, .array ?_, report.updatedAt.inWords_toJson⟩
  intro item hitem
  obtain ⟨step, hstep, rfl⟩ := List.mem_map.mp hitem
  exact StepResult.inWords_toJson (h step hstep)

theorem WorkflowRecord.inWords_toJson {record : WorkflowRecord} (h : record.response.InWords) :
    record.toJson.InWords := by
  apply Json.InWords.object
  simp only [List.forall_mem_cons, List.not_mem_nil, false_implies, implies_true, and_true]
  refine ⟨.object ?_, .string _, h.toJson⟩
  simp only [List.forall_mem_cons, List.not_mem_nil, false_implies, implies_true, and_true]
  exact ⟨.string _, .string _⟩

/-! ## The written forms -/

section Written

variable {α : Type} {decode : Decoder α} {v : Json} {x : α}

theorem Decoder.Reads.decodeText (h : Reads decode v x) {cs : List Char}
    (hspells : Json.Spells (.value v) cs) : decode.decodeText (String.ofList cs) = .ok x := by
  obtain ⟨root, hparse, hvalue⟩ := hspells.parse Json.blank_nil Json.blank_nil
  rw [List.nil_append, List.append_nil] at hparse
  simp only [Decoder.decodeText, hparse, h root hvalue]

theorem Decoder.Reads.decodeText_compact (h : Reads decode v x) (hv : v.InWords) :
    decode.decodeText v.compact = .ok x :=
  h.decodeText (Json.spells_compactChars hv)

theorem Decoder.Reads.decodeText_pretty (h : Reads decode v x) (hv : v.InWords) :
    decode.decodeText v.pretty = .ok x :=
  h.decodeText (Json.spells_prettyChars hv 0)

end Written

/-- The document of a record is read back, to the millisecond. -/
theorem WorkflowRecord.decodeText_pretty {record : WorkflowRecord}
    (h : record.response.InWords) :
    decode.decodeText record.toJson.pretty = .ok record.wholeMillis :=
  record.reads_toJson.decodeText_pretty (inWords_toJson h)

theorem Report.wholeMillis_eq_self {report : Report} (h : report.updatedAt.nanos = 0) :
    report.wholeMillis = report := by
  have hupdated : report.updatedAt.wholeMillis = report.updatedAt := by
    rw [Timestamp.wholeMillis, ← h]
  rw [wholeMillis, hupdated]

theorem WorkflowRecord.wholeMillis_eq_self {record : WorkflowRecord}
    (h : record.response.updatedAt.nanos = 0) : record.wholeMillis = record := by
  rw [wholeMillis, Report.wholeMillis_eq_self h]

/-- **Records and reports are read back from both written forms**, whatever their texts, their
steps and their identifiers are, if their elapsed times are numbers of 64 bits and they were made
at a whole millisecond. -/
theorem written_forms_read_back :
    (∀ record : WorkflowRecord, record.response.InWords → record.response.updatedAt.nanos = 0 →
      WorkflowRecord.decode.decodeText record.toJson.compact = .ok record ∧
      WorkflowRecord.decode.decodeText record.toJson.pretty = .ok record) ∧
    ∀ report : Report, report.InWords → report.updatedAt.nanos = 0 →
      Report.decode.decodeText report.toJson.compact = .ok report ∧
      Report.decode.decodeText report.toJson.pretty = .ok report := by
  constructor
  · intro record hwords hwhole
    have hreads := record.reads_toJson
    rw [WorkflowRecord.wholeMillis_eq_self hwhole] at hreads
    have hjson := WorkflowRecord.inWords_toJson hwords
    exact ⟨hreads.decodeText_compact hjson, hreads.decodeText_pretty hjson⟩
  · intro report hwords hwhole
    have hreads := report.reads_toJson
    rw [Report.wholeMillis_eq_self hwhole] at hreads
    exact ⟨hreads.decodeText_compact hwords.toJson, hreads.decodeText_pretty hwords.toJson⟩

/-- A record with all that needs care: controls and quotes in its texts, the longest time, no
detail for a failure, and the earliest moment there is. -/
def awkwardRecord : WorkflowRecord where
  workflow := ⟨⟨BitVec.allOnes 128⟩, "\u0001 \"zwölf\" \\ \t\n"⟩
  response :=
    { service := "größer 😀"
      verdict := .failed
      steps := [⟨"connect", .failed, some "", some .timeout, none, 18446744073709551615⟩]
      updatedAt := (Timestamp.ofMillis? (-8334601228800000)).getD .epoch }

theorem inWords_awkwardRecord : awkwardRecord.response.InWords := by
  intro step hstep
  rw [List.mem_singleton.mp hstep]
  decide

theorem awkwardRecord_read_back :
    (awkwardRecord.response.InWords ∧ awkwardRecord.response.updatedAt.nanos = 0) ∧
    (WorkflowRecord.decode.decodeText awkwardRecord.toJson.compact = .ok awkwardRecord ∧
      WorkflowRecord.decode.decodeText awkwardRecord.toJson.pretty = .ok awkwardRecord) ∧
    Report.decode.decodeText awkwardRecord.response.toJson.compact = .ok awkwardRecord.response ∧
      Report.decode.decodeText awkwardRecord.response.toJson.pretty =
        .ok awkwardRecord.response := by
  have hwhole : awkwardRecord.response.updatedAt.nanos = 0 := rfl
  exact ⟨⟨inWords_awkwardRecord, hwhole⟩,
    written_forms_read_back.1 awkwardRecord inWords_awkwardRecord hwhole,
    written_forms_read_back.2 awkwardRecord.response inWords_awkwardRecord hwhole⟩

end Preflight
