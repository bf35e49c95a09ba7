import Preflight.Proofs.Json.Columns
import Preflight.Proofs.RoundTrip
import Preflight.Settings.Document
import Preflight.Settings.Variables

/-!
# Two sources of the same settings

Settings come from variables or from a document. Both sources hold texts, but they
read them in different ways: a variable is trimmed and may be left out, a document
has types, escapes and an order of its members. What both have in common is the
end, where the bounds of the fields are checked. So the two agree as soon as each
of them is read as the settings that were put into it (`readVariables_of_givenBy`,
`ofDocument_of_writtenAs`).

The document is read by its table of fields, as other records are. The table has no
place for the one thing in which settings differ from them, that an array may stop
before its last fields; an object does not see it (`RecordForm.decode_obligatory`).

## Main results

* `GraphSettings.tabulates_columns` — the table of the fields of settings.
* `GraphSettings.sources_agree` — variables and documents of the same settings give
  the same.
-/

namespace Preflight

/-! ## Fields that an array may leave out -/

namespace RecordForm

variable {σ α : Type}

/-- The slot, which no array may leave out. -/
def obligatorySlot (slot : Slot σ) : Slot σ := { slot with omissible := false }

/-- The form, with no slot that an array may leave out. -/
def obligatory (form : RecordForm σ α) : RecordForm σ α :=
  { form with slots := form.slots.map obligatorySlot }

theorem fillMembers_obligatory (slots : List (Slot σ)) :
    ∀ (draft : σ) (members : Members),
      fillMembers (slots.map obligatorySlot) draft members = fillMembers slots draft members
  | draft, .member key value _ rest => by
      have hfind : ∀ name : String,
          ((slots.map obligatorySlot).find? fun slot => slot.name = name) =
            (slots.find? fun slot => slot.name = name).map obligatorySlot := by
        intro name
        rw [List.find?_map]
        rfl
      have hrest := fun draft => fillMembers_obligatory slots draft rest
      rw [fillMembers, fillMembers]
      cases key.name with
      | error e => rfl
      | ok name =>
          dsimp only
          rw [hfind name]
          cases slots.find? fun slot => slot.name = name with
          | none => simp only [Option.map_none, hrest]
          | some slot => simp only [Option.map_some, obligatorySlot, hrest]
  | _, .closed _ => rfl
  | _, .broken _ => rfl
  | _, .keyless _ _ => rfl

/-- What an array may leave out does not matter to an object. -/
theorem decode_obligatory (form : RecordForm σ α) (members : Members) (start : Spot) :
    form.obligatory.decode (.object members start) = form.decode (.object members start) := by
  have hfill := fillMembers_obligatory form.slots form.blank members
  have hcomplete : form.obligatory.complete = form.complete := rfl
  rw [decode, decode, hcomplete]
  exact congrArg (Except.bind · form.complete) hfill

theorem reads_object_of_obligatory {form : RecordForm σ α} {vs : List (String × Json)} {x : α}
    (h : Decoder.Reads form.obligatory.decode (.object vs) x) :
    Decoder.Reads form.decode (.object vs) x := by
  intro doc hdoc
  have hread := h doc hdoc
  cases doc.holds_of_toJson hdoc with
  | object start hmembers =>
      rw [← form.decode_obligatory]
      exact hread

end RecordForm

namespace Decoder

theorem blind_bool : Blind bool := by
  intro doc
  cases doc <;> rfl

theorem reads_bool (b : Bool) : Reads bool (.bool b) b := by
  intro doc h
  cases doc.holds_of_toJson h with
  | bool => rfl

end Decoder

/-! ## Settings in a document -/

namespace GraphSettings

/-- The fields of settings, each with its place in the draft. -/
def columns : List (Column Draft GraphSettings) :=
  [⟨.required "hostPort" .string (·.hostPort),
    (·.hostPort), fun d x => { d with hostPort := some x }⟩,
   ⟨.required "username" .string (·.username),
    (·.username), fun d x => { d with username := some x }⟩,
   ⟨.required "password" decodeSecret (·.password),
    (·.password), fun d x => { d with password := some x }⟩,
   ⟨⟨"encrypted", .bool, (·.encrypted), some false⟩,
    (·.encrypted), fun d x => { d with encrypted := some x }⟩,
   ⟨⟨"validateSSL", .bool, (·.validates), some false⟩,
    (·.validates), fun d x => { d with validates := some x }⟩,
   ⟨.optional "caCertificate" .string (·.certificateFile),
    (·.certificateFile), fun d x => { d with certificateFile := some x }⟩,
   ⟨⟨"maxConnectionLifeTime", .word, (·.lifetimeSecs), some 50⟩,
    (·.lifetimeSecs), fun d x => { d with lifetimeSecs := some x }⟩,
   ⟨⟨"connectionTimeout", .word, (·.timeoutSecs), some 10⟩,
    (·.timeoutSecs), fun d x => { d with timeoutSecs := some x }⟩]

/-- The draft of settings has a place for every field, and the field's value or its default is in
it once the draft is finished. -/
theorem tabulates_columns : form.obligatory.Tabulates columns where
  slots := rfl
  nodup := by decide
  kept_blank := by
    simp [columns, form, RecordForm.obligatory, RecordField.required, RecordField.optional]
  kept_keep := by simp [columns, RecordField.required, RecordField.optional]
  kept_keep_of_ne := by simp [columns, RecordField.required, RecordField.optional]
  finish_eq_ok_iff := by
    rintro ⟨hostPort, username, password, encrypted, validates, certificateFile, lifetimeSecs,
      timeoutSecs⟩ ⟨⟩
    -- The required fields decide whether there are settings, and the others have their defaults.
    cases hostPort <;> cases username <;> cases password <;>
      simp [columns, form, RecordForm.obligatory, Draft.finish, RecordField.required,
        RecordField.optional, Option.or_some, -Option.or_eq_some_iff, eq_comm]
  exists_finish := by
    rintro ⟨hostPort, username, password, encrypted, validates, certificateFile, lifetimeSecs,
      timeoutSecs⟩ h
    simp only [columns, RecordField.required, RecordField.optional, List.forall_mem_cons,
      Option.or_none] at h
    obtain ⟨⟨hostPort, rfl⟩, ⟨username, rfl⟩, ⟨password, rfl⟩, -⟩ := h
    exact ⟨_, rfl⟩
  blind := by
    simp only [columns, List.forall_mem_cons]
    exact ⟨Decoder.blind_string, Decoder.blind_string, Decoder.blind_string.map Secret.mk,
      Decoder.blind_bool, Decoder.blind_bool, Decoder.blind_string.optional, Decoder.blind_word,
      Decoder.blind_word, by simp⟩

/-- The members of a document for all settings but the certificate file. -/
def plainMembers (settings : GraphSettings) : List (String × Json) :=
  [("hostPort", .string settings.hostPort), ("username", .string settings.username),
   ("password", .string settings.password.value), ("encrypted", .bool settings.encrypted),
   ("validateSSL", .bool settings.validates),
   ("maxConnectionLifeTime", .ofNat settings.lifetimeSecs),
   ("connectionTimeout", .ofNat settings.timeoutSecs)]

/-- The member for a certificate file; for none there is `null`, or no member. -/
inductive CertificateMember : Option String → List (String × Json) → Prop
  | file (path : String) : CertificateMember (some path) [("caCertificate", .string path)]
  | null : CertificateMember none [("caCertificate", .null)]
  | absent : CertificateMember none []

/-- The text is that of an object with the settings for its members, in any order. -/
def WrittenAs (settings : GraphSettings) (text : String) : Prop :=
  ∃ certificate members, CertificateMember settings.certificateFile certificate ∧
    members.Perm (settings.plainMembers ++ certificate) ∧
    Json.Spells (.value (.object members)) text.toList

/-- The draft that the plain members fill. -/
def plainDraft (settings : GraphSettings) : Draft where
  hostPort := some settings.hostPort
  username := some settings.username
  password := some settings.password
  encrypted := some settings.encrypted
  validates := some settings.validates
  lifetimeSecs := some settings.lifetimeSecs
  timeoutSecs := some settings.timeoutSecs

theorem fills_plainMembers (settings : GraphSettings) {rest : List (String × Json)} {final : Draft}
    (hrest : RecordForm.Fills form.obligatory.slots settings.plainDraft rest final) :
    RecordForm.Fills form.obligatory.slots {} (settings.plainMembers ++ rest) final := by
  have hpassword : Decoder.Reads decodeSecret (.string settings.password.value) settings.password :=
    (Decoder.reads_string settings.password.value).map Secret.mk
  refine .field rfl rfl ((Decoder.reads_string settings.hostPort).map _) ?_
  refine .field rfl rfl ((Decoder.reads_string settings.username).map _) ?_
  refine .field rfl rfl (hpassword.map _) ?_
  refine .field rfl rfl ((Decoder.reads_bool settings.encrypted).map _) ?_
  refine .field rfl rfl ((Decoder.reads_bool settings.validates).map _) ?_
  refine .field rfl rfl ((Decoder.reads_word settings.lifetimeSecs).map _) ?_
  exact .field rfl rfl ((Decoder.reads_word settings.timeoutSecs).map _) hrest

/-- Settings are read off their members in the order in which they are listed. -/
theorem reads_members (settings : GraphSettings) {certificate : List (String × Json)}
    (h : CertificateMember settings.certificateFile certificate) :
    Decoder.Reads form.obligatory.decode (.object (settings.plainMembers ++ certificate))
      settings := by
  obtain ⟨hostPort, username, password, encrypted, validates, certificateFile, lifetimeSecs,
    timeoutSecs⟩ := settings
  cases h with
  | file path =>
      have hread : Decoder.Reads (Decoder.optional Decoder.string) (.string path) (some path) :=
        Decoder.reads_optional_some (Decoder.reads_string path)
      exact RecordForm.reads_decode
        (fills_plainMembers _ (.field rfl rfl (hread.map _) (.done _))) rfl
  | null =>
      have hread : Decoder.Reads (Decoder.optional Decoder.string) .null none :=
        Decoder.reads_optional_none Decoder.string
      exact RecordForm.reads_decode
        (fills_plainMembers _ (.field rfl rfl (hread.map _) (.done _))) rfl
  | absent => exact RecordForm.reads_decode (fills_plainMembers _ (.done _)) rfl

/-- **A document of settings is read as these settings**, whatever the order of its members. -/
theorem decodeText_of_writtenAs {settings : GraphSettings} {text : String}
    (h : settings.WrittenAs text) : form.decode.decodeText text = .ok settings := by
  obtain ⟨certificate, members, hcertificate, hperm, hspells⟩ := h
  have hlisted := settings.reads_members hcertificate
  have hanyOrder := tabulates_columns.readsFields.reads_object (hperm.filter _) hlisted
  have hread := (RecordForm.reads_object_of_obligatory hanyOrder).decodeText hspells
  rw [String.ofList_toList] at hread
  exact hread

theorem ofDocument_of_writtenAs {settings : GraphSettings} {text : String}
    (h : settings.WrittenAs text) :
    ofDocument text = settings.checked.mapError fun fault => .validation fault.message := by
  rw [ofDocument, decodeText_of_writtenAs h]
  dsimp only
  cases settings.checked <;> rfl

end GraphSettings

/-! ## Settings in variables -/

namespace Text

theorem not_isBlank_of_isDecimalDigit {c : Char} (h : isDecimalDigit c = true) :
    isBlank c = false := by
  simp only [isDecimalDigit, Bool.and_eq_true, decide_eq_true_eq] at h
  simp only [isBlank, Bool.or_eq_false_iff, Bool.and_eq_false_iff, beq_eq_false_iff_ne,
    decide_eq_false_iff_not]
  omega

/-- A text without blanks has nothing to trim. -/
theorem trim_eq_self {cs : List Char} (h : ∀ c ∈ cs, isBlank c = false) : trim cs = cs := by
  have hkeep : ∀ ds : List Char, (∀ c ∈ ds, isBlank c = false) → ds.dropWhile isBlank = ds := by
    intro ds hds
    cases ds with
    | nil => rfl
    | cons d ds => rw [List.dropWhile_cons, hds d List.mem_cons_self, if_neg Bool.false_ne_true]
  have hreverse : ∀ c ∈ cs.reverse, isBlank c = false :=
    fun c hc => h c (List.mem_reverse.mp hc)
  rw [trim, trimStart, hkeep cs h, trimEnd, hkeep cs.reverse hreverse, List.reverse_reverse]

theorem natOfDigits?_decimalDigits (n : Nat) : natOfDigits? (decimalDigits n) = some n := by
  have hsome : (decimalDigits n).isEmpty = false := by
    rw [List.isEmpty_eq_false_iff]
    exact decimalDigits_ne_nil n
  have hdigits : (decimalDigits n).all isDecimalDigit = true :=
    List.all_eq_true.mpr (isDecimalDigit_of_mem_decimalDigits n)
  rw [natOfDigits?, hsome, hdigits, natOfDigits_decimalDigits]
  rfl

end Text

namespace GraphSettings

/-- The variables hold the settings, each of them as its text; there is no variable for no
certificate file. -/
structure GivenBy (settings : GraphSettings) (vars : Variables) : Prop where
  hostPort : vars "NEO4J_HOST_PORT" = some settings.hostPort
  username : vars "NEO4J_USERNAME" = some settings.username
  password : vars "NEO4J_PASSWORD" = some settings.password.value
  encrypted : vars "NEO4J_ENCRYPTED" = some (boolText settings.encrypted)
  validates : vars "NEO4J_VALIDATE_SSL" = some (boolText settings.validates)
  certificateFile : vars "NEO4J_CA_CERTIFICATE" = settings.certificateFile
  lifetimeSecs : vars "NEO4J_MAX_CONNECTION_LIFETIME" = some (Text.decimal settings.lifetimeSecs)
  timeoutSecs : vars "NEO4J_CONNECTION_TIMEOUT" = some (Text.decimal settings.timeoutSecs)

theorem boolOfText?_boolText (b : Bool) : boolOfText? (boolText b) = some b := by
  cases b <;> decide +kernel

theorem wordOfText?_decimal {n : Nat} (h : n < Numeral.wordBound) :
    wordOfText? (Text.decimal n) = some n := by
  have htrim : Text.trim (Text.decimal n).toList = Text.decimalDigits n := by
    rw [Text.decimal, String.toList_ofList]
    exact Text.trim_eq_self fun c hc =>
      Text.not_isBlank_of_isDecimalDigit (Text.isDecimalDigit_of_mem_decimalDigits n c hc)
  have hplus : ∀ rest, Text.decimalDigits n ≠ '+' :: rest := by
    intro rest hdigits
    have hdigit : Text.isDecimalDigit '+' = true :=
      Text.isDecimalDigit_of_mem_decimalDigits n '+' (hdigits ▸ List.mem_cons_self)
    exact absurd hdigit (by decide)
  have hbound : n < 0x10000000000000000 := h
  unfold wordOfText?
  rw [htrim]
  split
  · rename_i rest hdigits
    exact absurd hdigits (hplus rest)
  · dsimp only
    rw [Text.natOfDigits?_decimalDigits, Option.filter_some, if_pos (decide_eq_true hbound)]

/-- **Variables of settings are read as these settings**, and then checked. -/
theorem readVariables_of_givenBy {settings : GraphSettings} {vars : Variables}
    (hpassword : settings.password.isEmpty = false)
    (hcertificate : ∀ path ∈ settings.certificateFile, Text.isAllBlank path = false)
    (hlifetime : settings.lifetimeSecs < Numeral.wordBound)
    (htimeout : settings.timeoutSecs < Numeral.wordBound) (h : settings.GivenBy vars) :
    readVariables vars = settings.checked := by
  have hsecret : (vars "NEO4J_PASSWORD").filter (!·.isEmpty) = some settings.password.value := by
    rw [h.password, Option.filter_some]
    exact if_pos (by rw [← Bool.not_false, ← hpassword]; rfl)
  have hfile : (vars "NEO4J_CA_CERTIFICATE").filter (!Text.isAllBlank ·) =
      settings.certificateFile := by
    rw [h.certificateFile]
    cases hpath : settings.certificateFile with
    | none => rfl
    | some path => rw [Option.filter_some, hcertificate path hpath]; rfl
  have hbool : ∀ {name : String} {b : Bool} (default : Bool), vars name = some (boolText b) →
      boolVariable vars name default = .ok b := by
    intro name b default hname
    simp only [boolVariable, hname, boolOfText?_boolText]
  have hword : ∀ {name : String} {n : Nat} (default : Nat), n < Numeral.wordBound →
      vars name = some (Text.decimal n) → wordVariable vars name default = .ok n := by
    intro name n default hn hname
    simp only [wordVariable, hname, wordOfText?_decimal hn]
  unfold readVariables
  simp only [hsecret, h.hostPort, h.username, hfile, hbool _ h.encrypted, hbool _ h.validates,
    hword _ hlifetime h.lifetimeSecs, hword _ htimeout h.timeoutSecs, Option.getD_some]
  rfl

/-! ## Both sources -/

/-- The field is empty, or zero. -/
def LacksValue (settings : GraphSettings) : BoundedField → Prop
  | .timeout => settings.timeoutSecs = 0
  | .hostPort => settings.hostPort = ""
  | .lifetime => settings.lifetimeSecs = 0
  | .username => settings.username = ""

theorem mem_brokenFields_iff (settings : GraphSettings) (field : BoundedField) :
    field ∈ settings.brokenFields ↔ settings.LacksValue field := by
  have hlisted : field ∈ [BoundedField.timeout, .hostPort, .lifetime, .username] := by
    cases field <;> decide
  rw [brokenFields, List.mem_filter, and_iff_right hlisted]
  cases field <;> simp [breaks, LacksValue, String.isEmpty_iff]

/-- The bounds have nothing to do with the password. -/
theorem checked_with_password (settings : GraphSettings) (password : Secret) :
    ({ settings with password } : GraphSettings).checked =
      settings.checked.map fun settings => { settings with password } := by
  have hbroken : ({ settings with password } : GraphSettings).brokenFields =
      settings.brokenFields := rfl
  unfold checked
  rw [hbroken]
  cases settings.brokenFields.isEmpty <;> rfl

/-- What both sources give: the settings, or an error about the fields that break their bounds. -/
theorem checked_eq (settings : GraphSettings) :
    settings.checked.mapError (fun fault => CheckError.validation fault.message) =
      if settings.brokenFields = [] then .ok settings
      else .error (.validation
        (Text.joined "\n" (settings.brokenFields.map BoundedField.message))) := by
  unfold checked
  cases settings.brokenFields with
  | nil => rfl
  | cons field fields => rfl

/-- **Variables and documents of the same settings give the same**: the settings as they are, or
the error that names the fields that are empty or zero, and no others. The document may have its
members in any order and blanks between its parts, and it may leave out the file that is not
there or say `null` for it. -/
theorem sources_agree {settings : GraphSettings} {vars : Variables} {text : String}
    (hpassword : settings.password.isEmpty = false)
    (hcertificate : ∀ path ∈ settings.certificateFile, Text.isAllBlank path = false)
    (hlifetime : settings.lifetimeSecs < Numeral.wordBound)
    (htimeout : settings.timeoutSecs < Numeral.wordBound)
    (hvars : settings.GivenBy vars) (htext : settings.WrittenAs text) :
    ofVariables vars = ofDocument text ∧
      (∃ lacking : List BoundedField, lacking.Nodup ∧
        (∀ field, field ∈ lacking ↔ settings.LacksValue field) ∧
        ofDocument text =
          if lacking = [] then .ok settings
          else .error (.validation
            (Text.joined "\n" (lacking.map BoundedField.message)))) := by
  have hread := readVariables_of_givenBy hpassword hcertificate hlifetime htimeout hvars
  have hvariables : ofVariables vars = settings.checked.mapError fun fault =>
      .validation fault.message := by
    rw [ofVariables, hread]
    cases settings.checked <;> rfl
  have hdocument := ofDocument_of_writtenAs htext
  have hnodup : settings.brokenFields.Nodup := List.Nodup.filter _ (by decide)
  refine ⟨hvariables.trans hdocument.symm, settings.brokenFields, hnodup,
    settings.mem_brokenFields_iff, ?_⟩
  rw [hdocument, checked_eq]

/-- Settings without an address and a span of time, with texts that have to be escaped. -/
def lackingSettings : GraphSettings where
  hostPort := ""
  username := " \"neo\\4j\"\n"
  password := ⟨" *\t"⟩
  encrypted := true
  certificateFile := some "certs/ca \"1\".pem"
  lifetimeSecs := 0
  timeoutSecs := 18446744073709551615

/-- The variables that hold them. -/
def lackingVariables : Variables := fun name =>
  [("NEO4J_CONNECTION_TIMEOUT", "18446744073709551615"), ("NEO4J_MAX_CONNECTION_LIFETIME", "0"),
   ("NEO4J_CA_CERTIFICATE", "certs/ca \"1\".pem"), ("NEO4J_VALIDATE_SSL", "false"),
   ("NEO4J_ENCRYPTED", "true"), ("NEO4J_PASSWORD", " *\t"), ("NEO4J_HOST_PORT", ""),
   ("NEO4J_USERNAME", " \"neo\\4j\"\n")].lookup name

/-- The members of their document, the last one first. -/
def lackingMembers : List (String × Json) :=
  [("caCertificate", .string "certs/ca \"1\".pem"),
   ("connectionTimeout", .ofNat 18446744073709551615), ("maxConnectionLifeTime", .ofNat 0),
   ("validateSSL", .bool false), ("encrypted", .bool true), ("password", .string " *\t"),
   ("username", .string " \"neo\\4j\"\n"), ("hostPort", .string "")]

theorem inWords_lackingMembers : (Json.object lackingMembers).InWords := by
  have hnumber : ∀ n, n < Numeral.wordBound → (Json.ofNat n).InWords :=
    fun n h => .number (by rw [JsonNumber.IsWord]; exact h)
  apply Json.InWords.object
  simp only [lackingMembers, List.forall_mem_cons]
  exact ⟨.string _, hnumber _ (by decide), hnumber _ (by decide), .bool _, .bool _, .string _,
    .string _, .string _, by simp⟩

theorem writtenAs_lackingMembers :
    lackingSettings.WrittenAs (Json.object lackingMembers).pretty := by
  refine ⟨_, lackingMembers, .file "certs/ca \"1\".pem", ?_, ?_⟩
  · exact List.reverse_perm (lackingSettings.plainMembers ++ [_])
  · rw [Json.pretty, String.toList_ofList]
    exact Json.spells_prettyChars inWords_lackingMembers 0

theorem givenBy_lackingVariables : lackingSettings.GivenBy lackingVariables where
  hostPort := by decide +kernel
  username := by decide +kernel
  password := by decide +kernel
  encrypted := by decide +kernel
  validates := by decide +kernel
  certificateFile := by decide +kernel
  lifetimeSecs := by decide +kernel
  timeoutSecs := by decide +kernel

theorem sources_agree_lacking :
    (lackingSettings.GivenBy lackingVariables ∧
      lackingSettings.WrittenAs (Json.object lackingMembers).pretty) ∧
    ofVariables lackingVariables = ofDocument (Json.object lackingMembers).pretty ∧
      ∃ lacking : List BoundedField,
        (∀ field, field ∈ lacking ↔ field = .hostPort ∨ field = .lifetime) ∧
        ofDocument (Json.object lackingMembers).pretty =
          .error (.validation (Text.joined "\n" (lacking.map BoundedField.message))) := by
  have hblank : Text.isAllBlank "certs/ca \"1\".pem" = false := by decide +kernel
  obtain ⟨hsame, lacking, -, hlacking, hresult⟩ :=
    @sources_agree lackingSettings lackingVariables (Json.object lackingMembers).pretty rfl
      (by intro path hpath; cases hpath; exact hblank) (by decide) (by decide)
      givenBy_lackingVariables writtenAs_lackingMembers
  have hfields : ∀ field, field ∈ lacking ↔ field = .hostPort ∨ field = .lifetime := by
    intro field
    rw [hlacking field]
    cases field <;> simp [LacksValue, lackingSettings]
  have hsome : lacking ≠ [] := List.ne_nil_of_mem ((hfields .hostPort).mpr (.inl rfl))
  rw [if_neg hsome] at hresult
  exact ⟨⟨givenBy_lackingVariables, writtenAs_lackingMembers⟩, hsame, lacking, hfields, hresult⟩

end GraphSettings

end Preflight
