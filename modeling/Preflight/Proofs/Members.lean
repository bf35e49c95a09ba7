import Preflight.Proofs.Json.Columns
import Preflight.Proofs.Json.Sorting
import Preflight.Proofs.RoundTrip

/-!
# Reports are read by the names of their fields

The documents of a report and of the result of a step have a table of fields each.
The table is all that matters to a reader: `Report.read_by_names` gives for both
what makes an object or an array acceptable, what is read off it, and what may be
changed in it without a difference. A report is read by names all the way down,
since its steps are, and the reader of a list passes this on.

## Main results

* `StepResult.tabulates_columns`, `Report.tabulates_columns` — the tables.
* `Report.read_by_names` — results of steps and reports are read by the names of
  their fields.
-/

namespace Preflight

namespace Timestamp

theorem toOption_ofWritten (millis : Int) (written : JsonNumber) (stop : Spot) :
    (ofWritten millis written stop).toOption = ofMillis? millis := by
  unfold ofWritten
  cases ofMillis? millis <;> rfl

theorem blind_decode : decode.Blind := by
  intro doc
  cases doc with
  | number value start stop =>
      rcases value with e | (n | n | x)
      · rfl
      · simp only [Doc.bare_number_ok, decode, toOption_ofWritten]
      · simp only [Doc.bare_number_ok, decode, toOption_ofWritten]
      · rfl
  | _ => rfl

end Timestamp

namespace StepResult

/-- The fields of the result of a step, each with its place in the draft. -/
def columns : List (Column Draft StepResult) :=
  [⟨.required "name" .string (·.name), (·.name), fun d x => { d with name := some x }⟩,
   ⟨.required "status" (.choice StepStatus.known) (·.status),
    (·.status), fun d x => { d with status := some x }⟩,
   ⟨.optional "message" .string (·.message),
    (·.message), fun d x => { d with message := some x }⟩,
   ⟨.optional "kind" FailureKind.decode (·.kind),
    (·.kind), fun d x => { d with kind := some x }⟩,
   ⟨.optional "errorLog" .string (·.errorLog),
    (·.errorLog), fun d x => { d with errorLog := some x }⟩,
   ⟨.required "elapsedMs" .word (·.elapsedMs),
    (·.elapsedMs), fun d x => { d with elapsedMs := some x }⟩]

/-- The fields of the result of a step. -/
def fields : List (RecordField StepResult) := columns.map Column.toRecordField

/-- The draft of a step has a place for every field, and the field's value is in it once the draft
is finished. -/
theorem tabulates_columns : form.Tabulates columns where
  slots := rfl
  nodup := by decide
  kept_blank := by simp [columns, form, RecordField.required, RecordField.optional]
  kept_keep := by simp [columns, RecordField.required, RecordField.optional]
  kept_keep_of_ne := by simp [columns, RecordField.required, RecordField.optional]
  finish_eq_ok_iff := by
    rintro ⟨name, status, message, kind, errorLog, elapsedMs⟩ ⟨⟩
    -- The required fields decide whether there is a result, and the others have `none` to fall back on.
    cases name <;> cases status <;> cases elapsedMs <;>
      simp [columns, form, Draft.finish, RecordField.required, RecordField.optional,
        -Option.or_eq_some_iff, eq_comm]
  exists_finish := by
    rintro ⟨name, status, message, kind, errorLog, elapsedMs⟩ h
    simp only [columns, RecordField.required, RecordField.optional, List.forall_mem_cons,
      Option.or_none] at h
    obtain ⟨⟨name, rfl⟩, ⟨status, rfl⟩, -, -, -, ⟨elapsedMs, rfl⟩, -⟩ := h
    exact ⟨_, rfl⟩
  blind := by
    simp only [columns, List.forall_mem_cons]
    exact ⟨Decoder.blind_string, Decoder.blind_choice _, Decoder.blind_string.optional,
      (Decoder.blind_choice _).optional, Decoder.blind_string.optional, Decoder.blind_word, by simp⟩

theorem blind_decode : decode.Blind := tabulates_columns.blind_decode

/-- The result of a step is read off its sorted members. -/
theorem reads_sorted (step : StepResult) : Decoder.Reads decode step.toJson.sorted step := by
  have hfields : decode.ReadsFields fields := tabulates_columns.readsFields
  refine hfields.reads_sorted ?_ ?_
  · exact tabulates_columns.nodup
  · -- All its members are texts, numbers or `null`, which stay as they are.
    have hvalues : ∀ s : Option String, (Json.ofOption s).sorted = .ofOption s := by
      intro s
      cases s <;> rfl
    simp only [List.map_cons, List.map_nil, hvalues]
    exact step.reads_toJson

end StepResult

namespace Report

/-- The fields of a report, each with its place in the draft. -/
def columns : List (Column Draft Report) :=
  [⟨.required "service" .string (·.service), (·.service), fun d x => { d with service := some x }⟩,
   ⟨.required "status" (.choice Verdict.known) (·.verdict),
    (·.verdict), fun d x => { d with verdict := some x }⟩,
   ⟨.required "steps" (.list StepResult.decode) (·.steps),
    (·.steps), fun d x => { d with steps := some x }⟩,
   ⟨.required "lastUpdatedAt" Timestamp.decode (·.updatedAt),
    (·.updatedAt), fun d x => { d with updatedAt := some x }⟩]

/-- The fields of a report. -/
def fields : List (RecordField Report) := columns.map Column.toRecordField

theorem tabulates_columns : form.Tabulates columns where
  slots := rfl
  nodup := by decide
  kept_blank := by simp [columns, form, RecordField.required]
  kept_keep := by simp [columns, RecordField.required]
  kept_keep_of_ne := by simp [columns, RecordField.required]
  finish_eq_ok_iff := by
    rintro ⟨service, verdict, steps, updatedAt⟩ ⟨⟩
    cases service <;> cases verdict <;> cases steps <;> cases updatedAt <;>
      simp [columns, form, Draft.finish, RecordField.required]
  exists_finish := by
    rintro ⟨service, verdict, steps, updatedAt⟩ h
    simp only [columns, RecordField.required, List.forall_mem_cons, Option.or_none] at h
    obtain ⟨⟨service, rfl⟩, ⟨verdict, rfl⟩, ⟨steps, rfl⟩, ⟨updatedAt, rfl⟩, -⟩ := h
    exact ⟨_, rfl⟩
  blind := by
    simp only [columns, List.forall_mem_cons]
    exact ⟨Decoder.blind_string, Decoder.blind_choice _, StepResult.blind_decode.list,
      Timestamp.blind_decode, by simp⟩

/-- A report is read off its sorted members, to the millisecond. -/
theorem reads_sorted (report : Report) :
    Decoder.Reads decode report.toJson.sorted report.wholeMillis := by
  have hfields : decode.ReadsFields fields := tabulates_columns.readsFields
  refine hfields.reads_sorted ?_ ?_
  · exact tabulates_columns.nodup
  · have hsteps : Json.sortedItems (report.steps.map StepResult.toJson) =
        report.steps.map fun step => step.toJson.sorted := by
      rw [Json.sortedItems_eq_map, List.map_map]
      rfl
    have hupdated : report.updatedAt.toJson.sorted = report.updatedAt.toJson := by
      rw [Timestamp.toJson, Json.ofInt]
      split <;> rfl
    simp only [List.map_cons, List.map_nil, Json.sorted, hsteps, hupdated]
    exact report.reads_members fun step _ => step.reads_sorted

/-- **Results of steps and reports are read by the names of their fields.** Both kinds of
document are accepted exactly if every field is there as often as it has to be and is accepted by
its own decoder; what is read then does not depend on the order of the members or on members of
other names; and an array of all fields in their order stands for the object with these members.
Of a field that may be left out, `null` is accepted besides what its decoder accepts. -/
theorem read_by_names :
    (StepResult.decode.ReadsFields StepResult.fields ∧ Report.decode.ReadsFields Report.fields) ∧
      ∀ {α : Type} (decode : Decoder α) (value : Doc), value.skip = .ok () →
        ((∃ x, Decoder.optional decode value = .ok x) ↔
          value.bare = .null none none ∨ ∃ x, decode value = .ok x) :=
  ⟨⟨StepResult.tabulates_columns.readsFields, Report.tabulates_columns.readsFields⟩,
    fun decode _ hvalue => Decoder.exists_optional_iff decode hvalue⟩

end Report

/-! ## One step in three forms -/

/-- A step that came too late. -/
def lateStep : StepResult := ⟨"connect", .failed, some "late", some .timeout, none, 7⟩

/-- Its members as they are written. -/
def lateMembers : List (String × Json) :=
  [("name", .string "connect"), ("status", .string "Failed"), ("message", .string "late"),
   ("kind", .string "timeout"), ("errorLog", .null), ("elapsedMs", .ofNat 7)]

/-- The same members in another order, and among others. -/
def shuffledMembers : List (String × Json) :=
  [("elapsedMs", .ofNat 7), ("host", .array [.string "db"]), ("kind", .string "timeout"),
   ("host", .object []), ("errorLog", .null), ("name", .string "connect"),
   ("message", .string "late"), ("status", .string "Failed")]

theorem knownValues_shuffledMembers :
    (knownValues StepResult.fields shuffledMembers).Perm
      (knownValues StepResult.fields lateMembers) := by
  have hplaces : [5, 3, 4, 0, 2, 1].Perm [0, 1, 2, 3, 4, 5] := by decide
  exact hplaces.map fun place => lateMembers[place]!

theorem inWords_lateMembers :
    (Json.object shuffledMembers).InWords ∧ (Json.array (lateMembers.map Prod.snd)).InWords := by
  have hnumber : (Json.ofNat 7).InWords := .number (by rw [JsonNumber.IsWord]; decide)
  constructor
  · apply Json.InWords.object
    simp only [shuffledMembers, List.forall_mem_cons]
    exact ⟨hnumber, .array (by simpa using .string "db"), .string _, .object (by simp), .null,
      .string _, .string _, .string _, by simp⟩
  · apply Json.InWords.array
    simp only [lateMembers, List.map_cons, List.forall_mem_cons]
    exact ⟨.string _, .string _, .string _, .string _, .null, hnumber, by simp⟩

theorem lateStep_in_other_forms :
    StepResult.decode.decodeText (Json.object shuffledMembers).pretty = .ok lateStep ∧
      StepResult.decode.decodeText (Json.array (lateMembers.map Prod.snd)).compact =
        .ok lateStep := by
  have hfields := Report.read_by_names.1.1
  have hwritten : Decoder.Reads StepResult.decode (.object lateMembers) lateStep :=
    lateStep.reads_toJson
  have hshuffled := hfields.reads_object knownValues_shuffledMembers hwritten
  have hlisted : Decoder.Reads StepResult.decode (.array (lateMembers.map Prod.snd)) lateStep :=
    hfields.reads_array rfl (List.Perm.refl _) hwritten
  exact ⟨hshuffled.decodeText_pretty inWords_lateMembers.1,
    hlisted.decodeText_compact inWords_lateMembers.2⟩

end Preflight
