import Preflight.Proofs.Sources

/-!
# What variables come to

A look-up of variables either gives settings or one error. Which of them it is can be
told from the texts alone: by the words that stand for truth values, by the digits that
stand for numbers, and by the order in which variables are looked at. The order is kept
here as a list of demands. The first one that is not met is reported and nothing after
it is looked at (`FirstFault`); the bounds of the fields come last and are reported
together.

Nothing in an error is taken from the password, so two look-ups with different
passwords, neither of them empty, are refused with the same words.

## Main results

* `GraphSettings.boolOfText?_eq_some_iff`, `GraphSettings.wordOfText?_eq_some_iff` — the
  texts of truth values and of numbers.
* `GraphSettings.told_by_variables` — which look-ups give which settings, and which give
  which error.
-/

namespace Preflight

namespace GraphSettings

variable {vars : Variables} {name : String} {settings : GraphSettings} {fault : SettingsFault}

/-! ## Texts of values -/

/-- The words for a truth value. -/
def flagWords : Bool → List String
  | true => ["1", "true", "yes", "on"]
  | false => ["0", "false", "no", "off", ""]

/-- The text is a word for `b`, blanks around it and the case of its letters apart. -/
def MeansFlag (value : String) (b : Bool) : Prop :=
  String.ofList ((Text.trim value.toList).map Char.toLower) ∈ flagWords b

/-- The text writes the 64-bit number `n` in digits, blanks around it and one plus sign in
front of them apart. -/
def MeansNumber (value : String) (n : Nat) : Prop :=
  n < 2 ^ 64 ∧ ∃ digits : List Char, digits ≠ [] ∧
    (∀ c ∈ digits, Text.isDecimalDigit c = true) ∧ Text.natOfDigits digits = n ∧
    (Text.trim value.toList = digits ∨ Text.trim value.toList = '+' :: digits)

theorem boolOfText?_eq_some_iff (value : String) (b : Bool) :
    boolOfText? value = some b ↔ MeansFlag value b := by
  have hread : ∀ word, (if word ∈ flagWords true then some true
      else if word ∈ flagWords false then some false else none) = some b ↔
      word ∈ flagWords b := by
    intro word
    -- No word is in both lists, so it does not matter which of them is searched first.
    have hdisjoint : ∀ w ∈ flagWords true, w ∉ flagWords false := by decide
    by_cases htrue : word ∈ flagWords true
    · cases b <;> simp [htrue, hdisjoint word htrue]
    · cases b <;> simp [htrue]
  exact hread _

theorem natOfDigits?_eq_some_iff (cs : List Char) (n : Nat) :
    Text.natOfDigits? cs = some n ↔
      cs ≠ [] ∧ (∀ c ∈ cs, Text.isDecimalDigit c = true) ∧ Text.natOfDigits cs = n := by
  unfold Text.natOfDigits?
  simp only [Option.ite_none_right_eq_some, Bool.and_eq_true, Bool.not_eq_true',
    List.isEmpty_eq_false_iff, List.all_eq_true, Option.some.injEq, and_assoc]

theorem wordOfText?_eq_some_iff (value : String) (n : Nat) :
    wordOfText? value = some n ↔ MeansNumber value n := by
  have hplus : Text.isDecimalDigit '+' = false := by decide
  unfold wordOfText? MeansNumber
  simp only [Option.filter_eq_some_iff, decide_eq_true_eq, natOfDigits?_eq_some_iff]
  generalize Text.trim value.toList = cs
  constructor
  · rintro ⟨⟨hne, hdigits, hvalue⟩, hbound⟩
    refine ⟨hbound, _, hne, hdigits, hvalue, ?_⟩
    split
    · exact .inr rfl
    · exact .inl rfl
  · rintro ⟨hbound, digits, hne, hdigits, hvalue, rfl | rfl⟩
    · refine ⟨?_, hbound⟩
      split
      · rw [hdigits '+' List.mem_cons_self] at hplus
        cases hplus
      · exact ⟨hne, hdigits, hvalue⟩
    · exact ⟨⟨hne, hdigits, hvalue⟩, hbound⟩

/-- A text writes no two numbers. -/
theorem MeansNumber.unique {value : String} {n m : Nat} (hn : MeansNumber value n)
    (hm : MeansNumber value m) : n = m :=
  Option.some.inj (((wordOfText?_eq_some_iff value n).mpr hn).symm.trans
    ((wordOfText?_eq_some_iff value m).mpr hm))

/-! ## Demands on variables -/

/-- What has to be read from a variable. -/
inductive Demand where
  | password
  | flag (name : String)
  | number (name : String)

/-- The demands, in the order in which they are looked at. -/
def demands : List Demand :=
  [.password, .flag "NEO4J_ENCRYPTED", .flag "NEO4J_VALIDATE_SSL",
   .number "NEO4J_MAX_CONNECTION_LIFETIME", .number "NEO4J_CONNECTION_TIMEOUT"]

/-- The variables do not meet the demand, and `fault` says so. -/
inductive Fails (vars : Variables) : Demand → SettingsFault → Prop where
  | password (missing : ∀ value, vars "NEO4J_PASSWORD" = some value → value = "") :
      Fails vars .password .passwordMissing
  | flag {name value : String} (given : vars name = some value)
      (senseless : ∀ b, ¬MeansFlag value b) : Fails vars (.flag name) (.notBoolean name value)
  | number {name value : String} (given : vars name = some value)
      (senseless : ∀ n, ¬MeansNumber value n) : Fails vars (.number name) (.notNumber name)

/-- The variables meet the demand. -/
def Meets (vars : Variables) (demand : Demand) : Prop :=
  ∀ fault, ¬Fails vars demand fault

/-- The first of the demands that is not met is the one about which `fault` is. -/
inductive FirstFault (vars : Variables) : List Demand → SettingsFault → Prop where
  | here {demand : Demand} {later : List Demand} {fault : SettingsFault}
      (fails : Fails vars demand fault) : FirstFault vars (demand :: later) fault
  | later {demand : Demand} {later : List Demand} {fault : SettingsFault}
      (met : Meets vars demand) (first : FirstFault vars later fault) :
      FirstFault vars (demand :: later) fault

theorem meets_all_or_firstFault (vars : Variables) (all : List Demand) :
    (∀ demand ∈ all, Meets vars demand) ∨ ∃ fault, FirstFault vars all fault := by
  induction all with
  | nil => exact .inl (by simp)
  | cons demand later ih =>
      by_cases hmet : Meets vars demand
      · rcases ih with hall | ⟨fault, hfirst⟩
        · exact .inl (List.forall_mem_cons.mpr ⟨hmet, hall⟩)
        · exact .inr ⟨fault, .later hmet hfirst⟩
      · simp only [Meets, not_forall, not_not] at hmet
        obtain ⟨fault, hfails⟩ := hmet
        exact .inr ⟨fault, .here hfails⟩

/-- A setting stands for `x`: by its text, or by not being there if `x` is the default. -/
inductive Stands {α : Type} (Means : String → α → Prop) (default : α) :
    Option String → α → Prop where
  | unset : Stands Means default none default
  | given {value : String} {x : α} (means : Means value x) : Stands Means default (some value) x

/-- A setting stands for something unless its text is senseless. -/
theorem exists_stands_iff {α : Type} {Means : String → α → Prop} (default : α)
    {setting : Option String} : (∃ x, Stands Means default setting x) ↔
      ∀ value, setting = some value → ∃ x, Means value x := by
  constructor
  · rintro ⟨x, hx⟩ value rfl
    cases hx with
    | given means => exact ⟨x, means⟩
  · intro h
    cases setting with
    | none => exact ⟨default, .unset⟩
    | some value =>
        obtain ⟨x, means⟩ := h value rfl
        exact ⟨x, .given means⟩

theorem meets_password_iff :
    Meets vars .password ↔ ∃ value, vars "NEO4J_PASSWORD" = some value ∧ value ≠ "" := by
  constructor
  · intro h
    by_contra hnone
    refine h _ (.password fun value hvalue => ?_)
    by_contra hne
    exact hnone ⟨value, hvalue, hne⟩
  · rintro ⟨value, hvalue, hne⟩ _ ⟨missing⟩
    exact hne (missing value hvalue)

theorem meets_flag_iff :
    Meets vars (.flag name) ↔ ∀ value, vars name = some value → ∃ b, MeansFlag value b := by
  constructor
  · intro h value hvalue
    by_contra hnone
    exact h _ (.flag hvalue fun b hb => hnone ⟨b, hb⟩)
  · rintro h _ (_ | ⟨given, senseless⟩)
    obtain ⟨b, hb⟩ := h _ given
    exact senseless b hb

theorem meets_number_iff :
    Meets vars (.number name) ↔ ∀ value, vars name = some value → ∃ n, MeansNumber value n := by
  constructor
  · intro h value hvalue
    by_contra hnone
    exact h _ (.number hvalue fun n hn => hnone ⟨n, hn⟩)
  · rintro h _ (_ | _ | ⟨given, senseless⟩)
    obtain ⟨n, hn⟩ := h _ given
    exact senseless n hn

theorem Meets.exists_flag (h : Meets vars (.flag name)) (default : Bool) :
    ∃ b, Stands MeansFlag default (vars name) b :=
  (exists_stands_iff default).mpr (meets_flag_iff.mp h)

theorem Meets.exists_number (h : Meets vars (.number name)) (default : Nat) :
    ∃ n, Stands MeansNumber default (vars name) n :=
  (exists_stands_iff default).mpr (meets_number_iff.mp h)

theorem boolVariable_of_stands {default b : Bool} (h : Stands MeansFlag default (vars name) b) :
    boolVariable vars name default = .ok b := by
  unfold boolVariable
  generalize vars name = setting at h
  cases h with
  | unset => rfl
  | given means => simp only [(boolOfText?_eq_some_iff _ b).mpr means]

theorem wordVariable_of_stands {default n : Nat} (h : Stands MeansNumber default (vars name) n) :
    wordVariable vars name default = .ok n := by
  unfold wordVariable
  generalize vars name = setting at h
  cases h with
  | unset => rfl
  | given means => simp only [(wordOfText?_eq_some_iff _ n).mpr means]

theorem boolVariable_of_fails (h : Fails vars (.flag name) fault) (default : Bool) :
    boolVariable vars name default = .error fault := by
  cases h with
  | @flag _ value given senseless =>
      have hnone : boolOfText? value = none := Option.eq_none_iff_forall_ne_some.mpr
        fun b hb => senseless b ((boolOfText?_eq_some_iff value b).mp hb)
      simp only [boolVariable, given, hnone]

theorem wordVariable_of_fails (h : Fails vars (.number name) fault) (default : Nat) :
    wordVariable vars name default = .error fault := by
  cases h with
  | @number _ value given senseless =>
      have hnone : wordOfText? value = none := Option.eq_none_iff_forall_ne_some.mpr
        fun n hn => senseless n ((wordOfText?_eq_some_iff value n).mp hn)
      simp only [wordVariable, given, hnone]

/-! ## Reading -/

/-- The settings hold what the variables stand for. -/
structure TakenFrom (settings : GraphSettings) (vars : Variables) : Prop where
  hostPort : settings.hostPort = (vars "NEO4J_HOST_PORT").getD "localhost:7687"
  username : settings.username = (vars "NEO4J_USERNAME").getD "neo4j"
  password : vars "NEO4J_PASSWORD" = some settings.password.value
  secret : settings.password.value ≠ ""
  encrypted : Stands MeansFlag false (vars "NEO4J_ENCRYPTED") settings.encrypted
  validates : Stands MeansFlag false (vars "NEO4J_VALIDATE_SSL") settings.validates
  certificateFile : ∀ path, settings.certificateFile = some path ↔
    vars "NEO4J_CA_CERTIFICATE" = some path ∧ ∃ c ∈ path.toList, Text.isBlank c = false
  lifetimeSecs : Stands MeansNumber 50 (vars "NEO4J_MAX_CONNECTION_LIFETIME")
    settings.lifetimeSecs
  timeoutSecs : Stands MeansNumber 10 (vars "NEO4J_CONNECTION_TIMEOUT") settings.timeoutSecs

theorem filter_certificateFile_eq_some_iff (file : Option String) (path : String) :
    file.filter (!Text.isAllBlank ·) = some path ↔
      file = some path ∧ ∃ c ∈ path.toList, Text.isBlank c = false := by
  simp only [Option.filter_eq_some_iff, Text.isAllBlank, Bool.not_eq_true', List.all_eq_false,
    Bool.not_eq_true]

theorem filter_password_eq_some {value : String} (hvalue : value ≠ "") :
    (some value).filter (!·.isEmpty) = some value := by
  rw [Option.filter_some, if_pos]
  simpa [String.isEmpty_iff] using hvalue

/-- Settings that hold what the variables stand for are checked next. -/
theorem TakenFrom.readVariables_eq (h : settings.TakenFrom vars) :
    readVariables vars = settings.checked := by
  have hfile : (vars "NEO4J_CA_CERTIFICATE").filter (!Text.isAllBlank ·) =
      settings.certificateFile :=
    Option.ext fun path =>
      (filter_certificateFile_eq_some_iff _ path).trans (h.certificateFile path).symm
  unfold readVariables
  simp only [h.password, filter_password_eq_some h.secret, hfile, ← h.hostPort, ← h.username,
    boolVariable_of_stands h.encrypted, boolVariable_of_stands h.validates,
    wordVariable_of_stands h.lifetimeSecs, wordVariable_of_stands h.timeoutSecs]
  rfl

/-- Variables that meet all demands stand for settings. -/
theorem exists_takenFrom (h : ∀ demand ∈ demands, Meets vars demand) :
    ∃ settings : GraphSettings, settings.TakenFrom vars := by
  simp only [demands, List.forall_mem_cons] at h
  obtain ⟨hpassword, hencrypted, hvalidates, hlifetime, htimeout, -⟩ := h
  obtain ⟨password, hgiven, hne⟩ := meets_password_iff.mp hpassword
  obtain ⟨encrypted, hencrypted⟩ := hencrypted.exists_flag false
  obtain ⟨validates, hvalidates⟩ := hvalidates.exists_flag false
  obtain ⟨lifetimeSecs, hlifetime⟩ := hlifetime.exists_number 50
  obtain ⟨timeoutSecs, htimeout⟩ := htimeout.exists_number 10
  exact ⟨⟨_, _, ⟨password⟩, encrypted, validates, _, lifetimeSecs, timeoutSecs⟩,
    rfl, rfl, hgiven, hne, hencrypted, hvalidates, filter_certificateFile_eq_some_iff _,
    hlifetime, htimeout⟩

/-- The first demand that is not met is all that is reported. -/
theorem readVariables_of_firstFault (h : FirstFault vars demands fault) :
    readVariables vars = .error fault := by
  unfold readVariables
  cases h with
  | here fails =>
      cases fails with
      | password missing =>
          have hnone : (vars "NEO4J_PASSWORD").filter (!·.isEmpty) = none := by
            simpa [Option.filter_eq_none_iff, String.isEmpty_iff] using missing
          rw [hnone]
          rfl
  | later met h =>
  obtain ⟨password, hgiven, hne⟩ := meets_password_iff.mp met
  rw [hgiven, filter_password_eq_some hne]
  cases h with
  | here fails => simp [boolVariable_of_fails fails, bind, Except.bind]
  | later met h =>
  obtain ⟨encrypted, hencrypted⟩ := met.exists_flag false
  simp only [boolVariable_of_stands hencrypted]
  cases h with
  | here fails => simp [boolVariable_of_fails fails, bind, Except.bind]
  | later met h =>
  obtain ⟨validates, hvalidates⟩ := met.exists_flag false
  simp only [boolVariable_of_stands hvalidates]
  cases h with
  | here fails => simp [wordVariable_of_fails fails, bind, Except.bind]
  | later met h =>
  obtain ⟨lifetimeSecs, hlifetime⟩ := met.exists_number 50
  simp only [wordVariable_of_stands hlifetime]
  cases h with
  | here fails => simp [wordVariable_of_fails fails, bind, Except.bind]
  | later met h => nomatch h

/-! ## Bounds of fields -/

/-- The variable of the field is there and is empty, or zero. -/
inductive GivenEmpty (vars : Variables) : BoundedField → Prop where
  | timeout {value : String} (given : vars "NEO4J_CONNECTION_TIMEOUT" = some value)
      (zero : MeansNumber value 0) : GivenEmpty vars .timeout
  | hostPort (given : vars "NEO4J_HOST_PORT" = some "") : GivenEmpty vars .hostPort
  | lifetime {value : String} (given : vars "NEO4J_MAX_CONNECTION_LIFETIME" = some value)
      (zero : MeansNumber value 0) : GivenEmpty vars .lifetime
  | username (given : vars "NEO4J_USERNAME" = some "") : GivenEmpty vars .username

/-- A default is not empty, so what is empty was given like that. -/
theorem getD_eq_empty_iff {default : String} (hdefault : default ≠ "") (setting : Option String) :
    setting.getD default = "" ↔ setting = some "" := by
  cases setting <;> simp [hdefault]

theorem Stands.eq_zero_iff {default n : Nat} {setting : Option String} (hdefault : default ≠ 0)
    (h : Stands MeansNumber default setting n) :
    n = 0 ↔ ∃ value, setting = some value ∧ MeansNumber value 0 := by
  cases h with
  | unset => simp [hdefault]
  | @given value _ means =>
      constructor
      · rintro rfl
        exact ⟨value, rfl, means⟩
      · rintro ⟨_, ⟨⟩, zero⟩
        exact means.unique zero

theorem TakenFrom.lacksValue_iff (h : settings.TakenFrom vars) (field : BoundedField) :
    settings.LacksValue field ↔ GivenEmpty vars field := by
  cases field with
  | timeout =>
      refine (h.timeoutSecs.eq_zero_iff (by decide)).trans ⟨?_, ?_⟩
      · rintro ⟨_, given, zero⟩
        exact .timeout given zero
      · intro hempty
        cases hempty with
        | timeout given zero => exact ⟨_, given, zero⟩
  | hostPort =>
      rw [LacksValue, h.hostPort, getD_eq_empty_iff (by decide)]
      refine ⟨.hostPort, fun hempty => ?_⟩
      cases hempty with
      | hostPort given => exact given
  | lifetime =>
      refine (h.lifetimeSecs.eq_zero_iff (by decide)).trans ⟨?_, ?_⟩
      · rintro ⟨_, given, zero⟩
        exact .lifetime given zero
      · intro hempty
        cases hempty with
        | lifetime given zero => exact ⟨_, given, zero⟩
  | username =>
      rw [LacksValue, h.username, getD_eq_empty_iff (by decide)]
      refine ⟨.username, fun hempty => ?_⟩
      cases hempty with
      | username given => exact given

/-- All fields with a bound, sorted by name. -/
def boundedFields : List BoundedField :=
  [.timeout, .hostPort, .lifetime, .username]

/-- Fields that are sorted by name are known by what they are. -/
theorem eq_of_sublist_boundedFields {fields fields' : List BoundedField}
    (h : fields.Sublist boundedFields) (h' : fields'.Sublist boundedFields)
    (hmem : ∀ field, field ∈ fields ↔ field ∈ fields') : fields = fields' := by
  have hnodup : boundedFields.Nodup := by decide
  have hsorted : boundedFields.Pairwise fun a b =>
      boundedFields.idxOf a < boundedFields.idxOf b := by decide
  have hperm : fields.Perm fields' :=
    (List.perm_ext_iff_of_nodup (hnodup.sublist h) (hnodup.sublist h')).mpr hmem
  exact hperm.eq_of_pairwise (fun _ _ _ _ hab hba => absurd hab (Nat.lt_asymm hba))
    (hsorted.sublist h) (hsorted.sublist h')

/-! ## What is reported -/

/-- Look-ups that give settings: each of the variables is left out or has a text of its kind. -/
structure Usable (vars : Variables) : Prop where
  password : ∃ value, vars "NEO4J_PASSWORD" = some value ∧ value ≠ ""
  flags : ∀ name ∈ ["NEO4J_ENCRYPTED", "NEO4J_VALIDATE_SSL"], ∀ value, vars name = some value →
    ∃ b, MeansFlag value b
  numbers : ∀ name ∈ ["NEO4J_MAX_CONNECTION_LIFETIME", "NEO4J_CONNECTION_TIMEOUT"],
    ∀ value, vars name = some value → ∃ n, 1 ≤ n ∧ MeansNumber value n
  texts : ∀ name ∈ ["NEO4J_HOST_PORT", "NEO4J_USERNAME"], vars name ≠ some ""

/-- `fault` is what is wrong about the variables: the first demand that is not met, or else all
fields that are empty or zero. -/
inductive Reports (vars : Variables) : SettingsFault → Prop where
  | unmet {fault : SettingsFault} (first : FirstFault vars demands fault) : Reports vars fault
  | bounds {fields : List BoundedField} (met : ∀ demand ∈ demands, Meets vars demand)
      (nonempty : fields ≠ []) (sorted : fields.Sublist boundedFields)
      (listed : ∀ field, field ∈ fields ↔ GivenEmpty vars field) :
      Reports vars (.outOfBounds fields)

theorem TakenFrom.mem_brokenFields_iff (h : settings.TakenFrom vars) (field : BoundedField) :
    field ∈ settings.brokenFields ↔ GivenEmpty vars field :=
  (settings.mem_brokenFields_iff field).trans (h.lacksValue_iff field)

theorem TakenFrom.brokenFields_eq_nil_iff (h : settings.TakenFrom vars) :
    settings.brokenFields = [] ↔ ∀ field, ¬GivenEmpty vars field := by
  simp only [List.eq_nil_iff_forall_not_mem, h.mem_brokenFields_iff]

theorem TakenFrom.ofVariables_eq (h : settings.TakenFrom vars) :
    ofVariables vars =
      if settings.brokenFields = [] then .ok settings
      else .error (.validation (SettingsFault.outOfBounds settings.brokenFields).message) := by
  refine Eq.trans ?_ settings.checked_eq
  rw [ofVariables, h.readVariables_eq]
  cases settings.checked <;> rfl

theorem ofVariables_of_takenFrom (h : settings.TakenFrom vars)
    (hfields : ∀ field, ¬GivenEmpty vars field) : ofVariables vars = .ok settings := by
  rw [h.ofVariables_eq, if_pos (h.brokenFields_eq_nil_iff.mpr hfields)]

theorem ofVariables_of_reports (h : Reports vars fault) :
    ofVariables vars = .error (.validation fault.message) := by
  cases h with
  | unmet first => rw [ofVariables, readVariables_of_firstFault first]
  | bounds met nonempty sorted listed =>
      obtain ⟨settings, htaken⟩ := exists_takenFrom met
      have hfields : settings.brokenFields = _ :=
        eq_of_sublist_boundedFields List.filter_sublist sorted fun field =>
          (htaken.mem_brokenFields_iff field).trans (listed field).symm
      rw [htaken.ofVariables_eq, hfields, if_neg nonempty]

/-- Variables give settings, or there is something to be reported. -/
theorem takenFrom_or_reports (vars : Variables) :
    (∃ settings : GraphSettings, settings.TakenFrom vars ∧ ∀ field, ¬GivenEmpty vars field) ∨
      ∃ fault, Reports vars fault := by
  rcases meets_all_or_firstFault vars demands with hmet | ⟨fault, hfirst⟩
  · obtain ⟨settings, htaken⟩ := exists_takenFrom hmet
    by_cases hbroken : settings.brokenFields = []
    · exact .inl ⟨settings, htaken, htaken.brokenFields_eq_nil_iff.mp hbroken⟩
    · exact .inr ⟨_, .bounds hmet hbroken List.filter_sublist htaken.mem_brokenFields_iff⟩
  · exact .inr ⟨fault, .unmet hfirst⟩

theorem ofVariables_eq_ok_iff : ofVariables vars = .ok settings ↔
    settings.TakenFrom vars ∧ ∀ field, ¬GivenEmpty vars field := by
  refine ⟨fun h => ?_, fun h => ofVariables_of_takenFrom h.1 h.2⟩
  rcases takenFrom_or_reports vars with ⟨settings', htaken, hfields⟩ | ⟨fault, hreports⟩
  · rw [ofVariables_of_takenFrom htaken hfields] at h
    cases h
    exact ⟨htaken, hfields⟩
  · rw [ofVariables_of_reports hreports] at h
    cases h

theorem ofVariables_eq_error_iff {error : CheckError} : ofVariables vars = .error error ↔
    ∃ fault, Reports vars fault ∧ error = .validation fault.message := by
  constructor
  · intro h
    rcases takenFrom_or_reports vars with ⟨settings, htaken, hfields⟩ | ⟨fault, hreports⟩
    · rw [ofVariables_of_takenFrom htaken hfields] at h
      cases h
    · rw [ofVariables_of_reports hreports] at h
      cases h
      exact ⟨fault, hreports, rfl⟩
  · rintro ⟨fault, hreports, rfl⟩
    exact ofVariables_of_reports hreports

theorem Usable.meets (h : Usable vars) : ∀ demand ∈ demands, Meets vars demand := by
  have hflags := h.flags
  have hnumbers := h.numbers
  simp only [List.forall_mem_cons] at hflags hnumbers
  have hnumber : ∀ {name : String},
      (∀ value, vars name = some value → ∃ n, 1 ≤ n ∧ MeansNumber value n) →
      Meets vars (.number name) := fun h =>
    meets_number_iff.mpr fun value hvalue => (h value hvalue).imp fun _ hn => hn.2
  simp only [demands, List.forall_mem_cons]
  exact ⟨meets_password_iff.mpr h.password, meets_flag_iff.mpr hflags.1,
    meets_flag_iff.mpr hflags.2.1, hnumber hnumbers.1, hnumber hnumbers.2.1, by simp⟩

theorem Usable.not_givenEmpty (h : Usable vars) (field : BoundedField) :
    ¬GivenEmpty vars field := by
  have hnumber : ∀ name ∈ ["NEO4J_MAX_CONNECTION_LIFETIME", "NEO4J_CONNECTION_TIMEOUT"],
      ∀ {value}, vars name = some value → ¬MeansNumber value 0 := by
    intro name hname value hvalue hzero
    obtain ⟨n, hpos, hn⟩ := h.numbers name hname value hvalue
    exact absurd (hn.unique hzero) (by omega)
  rintro (⟨given, zero⟩ | given | ⟨given, zero⟩ | given)
  · exact hnumber _ (by simp) given zero
  · exact h.texts _ (by simp) given
  · exact hnumber _ (by simp) given zero
  · exact h.texts _ (by simp) given

theorem usable_of_takenFrom (h : settings.TakenFrom vars)
    (hfields : ∀ field, ¬GivenEmpty vars field) : Usable vars where
  password := ⟨_, h.password, h.secret⟩
  flags := by
    simp only [List.forall_mem_cons]
    exact ⟨(exists_stands_iff false).mp ⟨_, h.encrypted⟩,
      (exists_stands_iff false).mp ⟨_, h.validates⟩, by simp⟩
  numbers := by
    have hpos : ∀ {name : String} {default n : Nat}, Stands MeansNumber default (vars name) n →
        (∀ {value}, vars name = some value → ¬MeansNumber value 0) →
        ∀ value, vars name = some value → ∃ n, 1 ≤ n ∧ MeansNumber value n := by
      intro name default n hn hzero value hvalue
      obtain ⟨m, hm⟩ := (exists_stands_iff default).mp ⟨n, hn⟩ value hvalue
      cases m with
      | zero => exact absurd hm (hzero hvalue)
      | succ m => exact ⟨m + 1, Nat.succ_pos m, hm⟩
    simp only [List.forall_mem_cons]
    exact ⟨hpos h.lifetimeSecs fun given zero => hfields _ (.lifetime given zero),
      hpos h.timeoutSecs fun given zero => hfields _ (.timeout given zero), by simp⟩
  texts := by
    simp only [List.forall_mem_cons]
    exact ⟨fun given => hfields _ (.hostPort given), fun given => hfields _ (.username given),
      by simp⟩

theorem exists_ofVariables_eq_ok_iff :
    (∃ settings, ofVariables vars = .ok settings) ↔ Usable vars := by
  simp only [ofVariables_eq_ok_iff]
  constructor
  · rintro ⟨settings, htaken, hfields⟩
    exact usable_of_takenFrom htaken hfields
  · intro h
    obtain ⟨settings, htaken⟩ := exists_takenFrom h.meets
    exact ⟨settings, htaken, h.not_givenEmpty⟩

/-! ## Other passwords -/

/-- The variables with another password. -/
def setPassword (vars : Variables) (password : String) : Variables :=
  Function.update vars "NEO4J_PASSWORD" (some password)

theorem setPassword_self (vars : Variables) (password : String) :
    setPassword vars password "NEO4J_PASSWORD" = some password :=
  Function.update_self _ _ _

theorem setPassword_of_ne (vars : Variables) (password : String)
    (hname : name ≠ "NEO4J_PASSWORD") : setPassword vars password name = vars name :=
  Function.update_of_ne hname _ _

theorem boolVariable_setPassword (vars : Variables) (password : String) (default : Bool)
    (hname : name ≠ "NEO4J_PASSWORD") :
    boolVariable (setPassword vars password) name default = boolVariable vars name default := by
  rw [boolVariable, boolVariable, setPassword_of_ne vars password hname]

theorem wordVariable_setPassword (vars : Variables) (password : String) (default : Nat)
    (hname : name ≠ "NEO4J_PASSWORD") :
    wordVariable (setPassword vars password) name default = wordVariable vars name default := by
  rw [wordVariable, wordVariable, setPassword_of_ne vars password hname]

/-- Variables that differ in the password give settings that differ in the password. -/
theorem readVariables_setPassword {password password' : String} (hne : password ≠ "")
    (hne' : password' ≠ "") : readVariables (setPassword vars password') =
      (readVariables (setPassword vars password)).map fun settings =>
        { settings with password := ⟨password'⟩ } := by
  have hnames : "NEO4J_HOST_PORT" ≠ "NEO4J_PASSWORD" ∧ "NEO4J_USERNAME" ≠ "NEO4J_PASSWORD" ∧
      "NEO4J_ENCRYPTED" ≠ "NEO4J_PASSWORD" ∧ "NEO4J_VALIDATE_SSL" ≠ "NEO4J_PASSWORD" ∧
      "NEO4J_CA_CERTIFICATE" ≠ "NEO4J_PASSWORD" ∧
      "NEO4J_MAX_CONNECTION_LIFETIME" ≠ "NEO4J_PASSWORD" ∧
      "NEO4J_CONNECTION_TIMEOUT" ≠ "NEO4J_PASSWORD" := by decide
  obtain ⟨hhost, husername, hencrypted, hvalidates, hfile, hlifetime, htimeout⟩ := hnames
  simp only [readVariables, setPassword_self, filter_password_eq_some hne,
    filter_password_eq_some hne', setPassword_of_ne, boolVariable_setPassword,
    wordVariable_setPassword, ne_eq, hhost, husername, hencrypted, hvalidates, hfile, hlifetime,
    htimeout, not_false_eq_true]
  cases boolVariable vars "NEO4J_ENCRYPTED" false with
  | error fault => rfl
  | ok encrypted =>
  cases boolVariable vars "NEO4J_VALIDATE_SSL" false with
  | error fault => rfl
  | ok validates =>
  cases wordVariable vars "NEO4J_MAX_CONNECTION_LIFETIME" 50 with
  | error fault => rfl
  | ok lifetimeSecs =>
  cases wordVariable vars "NEO4J_CONNECTION_TIMEOUT" 10 with
  | error fault => rfl
  | ok timeoutSecs =>
      exact checked_with_password
        ⟨_, _, ⟨password⟩, encrypted, validates, _, lifetimeSecs, timeoutSecs⟩ ⟨password'⟩

/-- Variables that differ in the password are refused with the same words. -/
theorem ofVariables_setPassword_eq_error {password password' : String} (hne : password ≠ "")
    (hne' : password' ≠ "") {error : CheckError}
    (h : ofVariables (setPassword vars password) = .error error) :
    ofVariables (setPassword vars password') = .error error := by
  unfold ofVariables at h ⊢
  rw [readVariables_setPassword hne hne']
  cases hread : readVariables (setPassword vars password) with
  | ok settings =>
      rw [hread] at h
      cases h
  | error fault =>
      rw [hread] at h
      exact h

/-- **What variables come to is told by their texts.** They give settings if and only if the
password is there and not empty, every flag and every number that is there has a text of its
kind, no number is zero, and neither the address nor the user name is empty; the settings are
then what the texts stand for. All other look-ups are refused for what is wrong with the first
variable that cannot be read or, if all of them can, for all fields that are empty or zero. No
refusal has to do with the password, if there is one. -/
theorem told_by_variables (vars : Variables) :
    (∀ settings, ofVariables vars = .ok settings ↔
      settings.TakenFrom vars ∧ ∀ field, ¬GivenEmpty vars field) ∧
    ((∃ settings, ofVariables vars = .ok settings) ↔ Usable vars) ∧
    (∀ error, ofVariables vars = .error error ↔
      ∃ fault, Reports vars fault ∧ error = .validation fault.message) ∧
    ∀ password password' error, password ≠ "" → password' ≠ "" →
      (ofVariables (setPassword vars password) = .error error ↔
        ofVariables (setPassword vars password') = .error error) := by
  refine ⟨fun settings => ofVariables_eq_ok_iff, exists_ofVariables_eq_ok_iff,
    fun error => ofVariables_eq_error_iff, fun password password' error hne hne' => ?_⟩
  exact ⟨ofVariables_setPassword_eq_error hne hne', ofVariables_setPassword_eq_error hne' hne⟩

/-- Blanks, a plus sign and leading zeros are no part of a number, but zero is one. -/
example : ofVariables (fun name =>
    [("NEO4J_PASSWORD", " "), ("NEO4J_ENCRYPTED", "\t YeS "), ("NEO4J_USERNAME", ""),
     ("NEO4J_MAX_CONNECTION_LIFETIME", " +000\n"), ("NEO4J_CONNECTION_TIMEOUT", "+007")].lookup
      name) =
    .error (.validation (SettingsFault.outOfBounds [.lifetime, .username]).message) := by
  decide +kernel

end GraphSettings

end Preflight
