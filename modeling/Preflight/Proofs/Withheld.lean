import Preflight.Proofs.Json.Grammar
import Preflight.Proofs.Sources

/-!
# Refusals and the password

A document of settings that is refused is refused with a sentence, and the sentence may
quote what it is about. This asks what it tells of the password. Two documents that
differ in the password alone are read in the same way up to it, and behind it too if the
two passwords end at the same place. So there are two ways to be told apart: by what is
said about the password itself, and by a place behind it.

Strings of the same length in bytes end at the same place, and nothing is said about a
string that has a text, as it is what was asked for. About an array or an object it is
only said that it is one, where it begins. But a number is quoted, or is out of range,
and a string without a text is refused inside of it. That is all there is
(`refusal_tells_no_password`).

## Main results

* `GraphSettings.UpToPassword.parse` — a document up to its password, read.
* `GraphSettings.fillMembers_withPassword` — what follows a password is decoded without
  regard to it.
* `GraphSettings.UpToPassword.refused_or_judged` — a document is refused in front of its
  password, or judged by it and what follows.
* `GraphSettings.refusal_tells_no_password` — what a refusal tells of a password.
* `GraphSettings.number_as_password_is_told` — two refusals that differ.
-/

namespace Preflight

namespace GraphSettings

open Json (Blank Kind Wellformed Leading Passed passing)

/-! ## A document up to its password -/

/-- A document of settings, up to the value of a member of its own that is named `password`. -/
inductive UpToPassword : List Char → Prop where
  | front {blanks gap leading key before behind : List Char} (hblanks : Blank blanks)
      (hgap : Blank gap) (hleading : Leading leading)
      (hkey : Page.Denotes key "password".toList) (hbefore : Blank before)
      (hbehind : Blank behind) :
      UpToPassword
        (blanks ++ '\x7b' :: (gap ++ (leading ++ '"' :: (key ++ (before ++ ':' :: behind)))))

/-- The page of an object, from its members and the cursor behind it. -/
def pageOf (start : Place) (result : Members × Option Cursor) : Page where
  root := .object result.1 (some start)
  surplus := result.2.bind fun stop =>
    if stop.skipSpace.rest.isEmpty then none else some stop.skipSpace.peek

/-- **Up to the password a document is read in one way**, and what follows it is read from where
the password ends. -/
theorem UpToPassword.parse {front : List Char} (h : UpToPassword front) :
    ∃ start passed key inside, key.name = .ok "password" ∧
      ∀ {kind value doc stop behind}, Wellformed (.value kind) value →
        Page.valueAt ⟨inside, value ++ behind⟩ = (doc, some ⟨stop, behind⟩) →
          let next := (Cursor.mk stop behind).skipSpace
          Page.parse (String.ofList (front ++ (value ++ behind))) =
            pageOf start (passing passed
                (.member key doc (some next.place) (Page.membersAt false next).1),
              (Page.membersAt false next).2) := by
  cases h with
  | @front blanks gap leading key before behind hblanks hgap hleading hkey hbefore hbehind =>
      let start := Place.pastAll ⟨1, 0⟩ blanks
      obtain ⟨passed, last, hpassed⟩ := hleading.read ((start.past '\x7b').pastAll gap)
      obtain ⟨key', inside, htext, hmember⟩ :=
        Json.exists_readKey hkey.stringBody hbefore hbehind last (last.past '"')
      have hname : key'.name = .ok "password" := hkey.eq_of_reads htext
      refine ⟨start, passed, key', inside, hname, ?_⟩
      intro kind value doc stop rest hvalue hread next
      obtain ⟨ds, hds⟩ := hleading.append_quote (key ++ (before ++ ':' :: (behind ++ (value ++ rest))))
      have hstart := Json.skipSpace_blank hblanks (c := '\x7b') (gap ++ '"' :: ds) rfl ⟨1, 0⟩
      have hinside := Json.skipSpace_blank hgap (c := '"') ds rfl (start.past '\x7b')
      rw [← hds] at hstart hinside
      have hroot : Page.valueAt ⟨start, '\x7b' :: (gap ++ (leading ++ '"' ::
          (key ++ (before ++ ':' :: (behind ++ (value ++ rest))))))⟩ =
          (.object (passing passed (.member key' doc (some next.place)
            (Page.membersAt false next).1)) (some start), (Page.membersAt false next).2) := by
        rw [Page.valueAt_brace, hinside, hpassed, Page.membersAt_quote, hmember hvalue hread]
      rw [Page.parse_eq, Page.start, String.toList_ofList]
      simp only [List.append_assoc, List.cons_append]
      rw [hstart]
      exact congrArg (fun result : Doc × Option Cursor => Page.mk result.1 (result.2.bind _)) hroot

/-! ## Decoding behind a password -/

/-- Members that were passed are decoded before the others, whatever the others are. -/
theorem exists_fillMembers_passing (draft : Draft) (passed : List Passed) :
    ∃ filled : Except DecodeError Draft, ∀ rest,
      RecordForm.fillMembers slots draft (passing passed rest) =
        filled.bind fun draft => RecordForm.fillMembers slots draft rest := by
  induction passed generalizing draft with
  | nil => exact ⟨.ok draft, fun rest => rfl⟩
  | cons member passed ih =>
      have hcons : ∀ rest, passing (member :: passed) rest =
          .member member.key member.value member.after (passing passed rest) := fun rest => rfl
      simp only [hcons, RecordForm.fillMembers]
      cases member.key.name with
      | error e => exact ⟨.error e, fun rest => rfl⟩
      | ok name =>
          dsimp only
          cases slots.find? fun slot => slot.name = name with
          | none =>
              cases member.value.skip with
              | error e => exact ⟨.error e, fun rest => rfl⟩
              | ok _ => exact ih draft
          | some slot =>
              by_cases hfilled : slot.filled draft = true
              · simp only [if_pos hfilled]
                exact ⟨.error ⟨.duplicateField name, member.key.beyond⟩, fun rest => rfl⟩
              · simp only [if_neg hfilled]
                cases slot.fill draft member.value with
                | error e => exact ⟨.error e, fun rest => rfl⟩
                | ok draft => exact ih draft

/-- The draft with a password in it. -/
def Draft.withPassword (draft : Draft) (secret : Secret) : Draft :=
  { draft with password := some secret }

/-- The slot of a field has nothing to do with the password, or is the slot of the password, which
is filled once it is there. -/
def Heedless (slot : Slot Draft) : Prop :=
  (∀ (secret : Secret) (draft : Draft),
    slot.filled (draft.withPassword secret) = slot.filled draft ∧
      ∀ doc, slot.fill (draft.withPassword secret) doc =
        (slot.fill draft doc).map (·.withPassword secret)) ∨
  ∀ (secret : Secret) (draft : Draft), slot.filled (draft.withPassword secret) = true

theorem heedless_slots : ∀ slot ∈ slots, Heedless slot := by
  have hmap : ∀ {α : Type} (result : Except DecodeError α) (f g : α → Draft) (secret : Secret),
      (∀ x, f x = (g x).withPassword secret) →
        result.map f = (result.map g).map (·.withPassword secret) := by
    intro α result f g secret h
    cases result with
    | error e => rfl
    | ok x => exact congrArg Except.ok (h x)
  simp only [slots, List.forall_mem_cons]
  refine ⟨.inl ?_, .inl ?_, .inr fun _ _ => rfl, .inl ?_, .inl ?_, .inl ?_, .inl ?_, .inl ?_,
    by simp⟩ <;>
  exact fun secret draft => ⟨rfl, fun doc => hmap _ _ _ secret fun x => rfl⟩

/-- **What follows a password is decoded without regard to it.** -/
theorem fillMembers_withPassword (secret secret' : Secret) :
    ∀ (draft : Draft) (members : Members),
      RecordForm.fillMembers slots (draft.withPassword secret') members =
        (RecordForm.fillMembers slots (draft.withPassword secret) members).map fun filled =>
          (filled.1.withPassword secret', filled.2)
  | draft, .member key value _ rest => by
      have hrest := fun draft => fillMembers_withPassword secret secret' draft rest
      simp only [RecordForm.fillMembers]
      cases key.name with
      | error e => rfl
      | ok name =>
          dsimp only
          cases hslot : slots.find? fun slot => slot.name = name with
          | none =>
              cases value.skip with
              | error e => rfl
              | ok _ => exact hrest draft
          | some slot =>
              dsimp only
              rcases heedless_slots slot (List.mem_of_find?_eq_some hslot) with h | h
              · rw [(h secret draft).1, (h secret' draft).1, (h secret draft).2, (h secret' draft).2]
                cases slot.filled draft with
                | true => rfl
                | false =>
                    cases slot.fill draft value with
                    | error e => rfl
                    | ok draft => exact hrest draft
              · rw [h, h]
                rfl
  | _, .closed _ => rfl
  | _, .broken _ => rfl
  | _, .keyless _ _ => rfl

theorem finish_withPassword (secret secret' : Secret) (draft : Draft) :
    (draft.withPassword secret').finish =
      (draft.withPassword secret).finish.map fun settings => { settings with password := secret' } := by
  obtain ⟨hostPort, username, password, encrypted, validates, certificateFile, lifetimeSecs,
    timeoutSecs⟩ := draft
  cases hostPort <;> cases username <;> rfl

/-! ## What a page comes to -/

/-- What comes of the members of a page, once they have been decoded. -/
def settled (surplus : Option Place) (filled : Except DecodeError (Draft × Spot)) :
    Except CheckError GraphSettings :=
  match filled.bind form.complete, surplus with
  | .error e, _ => .error (.serialization e.message)
  | .ok _, some place =>
      .error (.serialization (DecodeError.fault .trailingCharacters (some place)).message)
  | .ok settings, none => settings.checked.mapError fun fault => .validation fault.message

theorem ofDocument_of_parse {text : String} {start : Place} {result : Members × Option Cursor}
    (h : Page.parse text = pageOf start result) :
    ofDocument text =
      settled (pageOf start result).surplus (RecordForm.fillMembers slots {} result.1) := by
  unfold ofDocument Decoder.decodeText settled
  rw [h]
  have hdecode : form.decode (pageOf start result).root =
      (RecordForm.fillMembers slots {} result.1).bind form.complete := rfl
  simp only [hdecode]
  cases (RecordForm.fillMembers slots {} result.1).bind form.complete with
  | error e => rfl
  | ok settings =>
      cases (pageOf start result).surplus with
      | some place => rfl
      | none => cases hchecked : settings.checked <;> simp [hchecked, Except.mapError]

theorem complete_withPassword (secret secret' : Secret) (draft : Draft) (stop : Spot) :
    form.complete (draft.withPassword secret', stop) =
      (form.complete (draft.withPassword secret, stop)).map fun settings =>
        { settings with password := secret' } := by
  have hfinish : form.finish (draft.withPassword secret') = _ :=
    finish_withPassword secret secret' draft
  rw [RecordForm.complete, RecordForm.complete, hfinish]
  cases hdraft : (draft.withPassword secret).finish with
  | error name =>
      have hmissing : form.finish (draft.withPassword secret) = .error name := hdraft
      rw [hmissing]
      rfl
  | ok settings =>
      have hfound : form.finish (draft.withPassword secret) = .ok settings := hdraft
      rw [hfound]
      rfl

/-- Settings with another password are settled alike, but for the password in them. -/
theorem settled_map_withPassword {secret : Secret} (secret' : Secret) (surplus : Option Place)
    {filled : Except DecodeError (Draft × Spot)}
    (h : filled = filled.map fun filled => (filled.1.withPassword secret, filled.2)) :
    settled surplus (filled.map fun filled => (filled.1.withPassword secret', filled.2)) =
      (settled surplus filled).map fun settings => { settings with password := secret' } := by
  cases filled with
  | error e => rfl
  | ok filled =>
      obtain ⟨final, stop⟩ := filled
      have hfinal : final = final.withPassword secret := congrArg Prod.fst (Except.ok.inj h)
      have hcomplete := complete_withPassword secret secret' final stop
      rw [← hfinal] at hcomplete
      simp only [settled, Except.map, Except.bind]
      rw [hcomplete]
      cases form.complete (final, stop) with
      | error e => rfl
      | ok settings =>
          cases surplus with
          | some place => rfl
          | none =>
              simp only [Except.map]
              rw [checked_with_password]
              cases settings.checked <;> rfl

/-- Two passwords make no difference to whether and why settings are refused behind them. -/
theorem settled_withPassword {surplus : Option Place} {draft : Draft} {members : Members}
    (secret secret' : Secret) {error : CheckError}
    (h : settled surplus (RecordForm.fillMembers slots (draft.withPassword secret) members) =
      .error error) :
    settled surplus (RecordForm.fillMembers slots (draft.withPassword secret') members) =
      .error error := by
  have hsame := fillMembers_withPassword secret secret draft members
  rw [fillMembers_withPassword secret secret', settled_map_withPassword secret' surplus hsame, h]
  rfl

/-- The slot of the password. -/
theorem find?_password : (slots.find? fun slot => slot.name = "password") =
    some { name := "password", filled := (·.password.isSome),
           fill := fun draft doc => (decodeSecret doc).map draft.withPassword } := by
  rfl

/-- A password is decoded if there is none before it. -/
theorem fillMembers_password {key : Key} (hname : key.name = .ok "password") (draft : Draft)
    (doc : Doc) (after : Spot) (rest : Members) :
    RecordForm.fillMembers slots draft (.member key doc after rest) =
      if draft.password.isSome then .error ⟨.duplicateField "password", key.beyond⟩
      else (decodeSecret doc).bind fun secret =>
        RecordForm.fillMembers slots (draft.withPassword secret) rest := by
  rw [RecordForm.fillMembers, hname]
  dsimp only
  rw [find?_password]
  dsimp only
  refine ite_congr rfl (fun _ => rfl) fun _ => ?_
  cases decodeSecret doc <;> rfl

/-- What comes of a document whose password was read as `doc`, up to `stop`, if nothing in front of
it is refused. -/
def judged (draft : Draft) (doc : Doc) (stop inside : Place) (behind : List Char) :
    Except CheckError GraphSettings :=
  let rest := Page.membersAt false (Cursor.mk stop behind).skipSpace
  settled (pageOf inside rest).surplus
    ((decodeSecret doc).bind fun secret =>
      RecordForm.fillMembers slots (draft.withPassword secret) rest.1)

/-- **A document is refused for what stands in front of its password**, or because of another one
there, or else it is judged by the password and what follows. -/
theorem UpToPassword.refused_or_judged {front : List Char} (h : UpToPassword front) :
    ∃ inside,
      (∃ reason, ∀ {kind value doc stop behind}, Wellformed (.value kind) value →
        Page.valueAt ⟨inside, value ++ behind⟩ = (doc, some ⟨stop, behind⟩) →
          ofDocument (String.ofList (front ++ (value ++ behind))) = .error reason) ∨
      ∃ draft, ∀ {kind value doc stop behind}, Wellformed (.value kind) value →
        Page.valueAt ⟨inside, value ++ behind⟩ = (doc, some ⟨stop, behind⟩) →
          ofDocument (String.ofList (front ++ (value ++ behind))) =
            judged draft doc stop inside behind := by
  obtain ⟨start, passed, key, inside, hname, hparse⟩ := h.parse
  obtain ⟨filled, hfilled⟩ := exists_fillMembers_passing {} passed
  refine ⟨inside, ?_⟩
  cases filled with
  | error e =>
      refine .inl ⟨.serialization e.message, fun hvalue hread => ?_⟩
      rw [ofDocument_of_parse (hparse hvalue hread), hfilled]
      rfl
  | ok draft =>
      have hofDocument : ∀ {kind value doc stop behind}, Wellformed (.value kind) value →
          Page.valueAt ⟨inside, value ++ behind⟩ = (doc, some ⟨stop, behind⟩) →
            let rest := Page.membersAt false (Cursor.mk stop behind).skipSpace
            ofDocument (String.ofList (front ++ (value ++ behind))) =
              settled (pageOf inside rest).surplus
                (if draft.password.isSome then .error ⟨.duplicateField "password", key.beyond⟩
                else (decodeSecret doc).bind fun secret =>
                  RecordForm.fillMembers slots (draft.withPassword secret) rest.1) := by
        intro kind value doc stop behind hvalue hread rest
        rw [ofDocument_of_parse (hparse hvalue hread), hfilled, Except.bind,
          fillMembers_password hname]
        rfl
      by_cases hthere : draft.password.isSome = true
      · refine .inl ⟨.serialization
          (DecodeError.mk (.duplicateField "password") key.beyond).message,
            fun hvalue hread => ?_⟩
        rw [hofDocument hvalue hread, if_pos hthere]
        rfl
      · refine .inr ⟨draft, fun hvalue hread => ?_⟩
        rw [hofDocument hvalue hread, if_neg hthere]
        rfl

/-! ## What is told -/

/-- The value is a string with a text. -/
def HasText (value : List Char) : Prop :=
  ∃ body text, value = '"' :: body ∧ Page.Denotes body text

/-- What is said about a value where a string is expected, if it depends on the value. -/
inductive Tells (value : List Char) : Kind → DecodeCause → Prop where
  | number {n : JsonNumber} (h : Numeral.Denotes value n) :
      Tells value .number (.wrongType n.described "a string")
  | outOfRange (hnone : ¬∃ n, Numeral.Denotes value n) :
      Tells value .number (.text .numberOutOfRange)
  | loneSurrogate (hnone : ¬HasText value) : Tells value .string (.text .loneSurrogate)
  | endOfEscape (hnone : ¬HasText value) : Tells value .string (.text .endOfEscape)

/-- The error is what is said about the value. -/
def TellsOf (value : List Char) (kind : Kind) (error : CheckError) : Prop :=
  ∃ refusal : DecodeError, Tells value kind refusal.cause ∧
    error = .serialization refusal.message

/-- How documents with the passwords `v` and `w` of one kind may be refused. -/
inductive Refusals (v w : List Char) (error error' : CheckError) : Kind → Prop where
  /-- With the same words. -/
  | same {kind : Kind} (h : error = error') : Refusals v w error error' kind
  /-- Each for being the number that it is. -/
  | numbers (h : TellsOf v .number error) (h' : TellsOf w .number error') :
      Refusals v w error error' .number
  /-- A string without a text for that. -/
  | strings (hhalf : ¬(HasText v ∧ HasText w)) (h : ¬HasText v → TellsOf v .string error)
      (h' : ¬HasText w → TellsOf w .string error') : Refusals v w error error' .string

/-- The words for truth values have different lengths. -/
theorem boolChars_eq_of_byteCount {b b' : Bool}
    (h : Page.byteCount (Json.boolChars b) = Page.byteCount (Json.boolChars b')) : b = b' := by
  revert b b'
  decide

theorem tells_of_isHalf {value : List Char} {error : DecodeError} (hnone : ¬HasText value)
    (h : Page.IsHalf error) : Tells value .string error.cause := by
  rcases h with h | h
  · rw [h]
    exact .loneSurrogate hnone
  · rw [h]
    exact .endOfEscape hnone

section Judging

variable {draft : Draft} {doc : Doc} {stop inside : Place} {behind : List Char} {error : CheckError}

/-- A password that is refused is what the document is refused for. -/
theorem judged_refused {refusal : DecodeError} (hdoc : decodeSecret doc = .error refusal)
    (h : judged draft doc stop inside behind = .error error) :
    error = .serialization refusal.message := by
  rw [judged, hdoc] at h
  exact (Except.error.inj h).symm

/-- A number is refused for being the number that it is. -/
theorem judged_number {cs : List Char} {start : Place}
    (hdoc : Json.DocOf start stop cs .number doc)
    (h : judged draft doc stop inside behind = .error error) : TellsOf cs .number error := by
  cases hdoc with
  | number hvalue =>
      cases hvalue with
      | @number n hn =>
          exact ⟨.wrongType n.described "a string" (some stop), .number hn, judged_refused rfl h⟩
      | @outOfRange refusal hnone hcause =>
          exact ⟨refusal, hcause ▸ .outOfRange hnone, judged_refused rfl h⟩

/-- A string without a text is refused for that. -/
theorem judged_string {body : List Char} {value : Except DecodeError String} {start last : Spot}
    (hvalue : Page.ReadsText body value)
    (h : judged draft (.string value start last) stop inside behind = .error error)
    (hnone : ¬HasText ('"' :: body)) : TellsOf ('"' :: body) .string error := by
  cases hvalue with
  | text htext => exact absurd ⟨body, _, rfl, htext⟩ hnone
  | @half refusal _ hhalf => exact ⟨refusal, tells_of_isHalf hnone hhalf, judged_refused rfl h⟩

/-- Strings with a text are as good as each other, if both end at the same place. -/
theorem refusals_strings {body body' : List Char} {value value' : Except DecodeError String}
    {start last : Spot} (hvalue : Page.ReadsText body value)
    (hvalue' : Page.ReadsText body' value') {error' : CheckError}
    (h : judged draft (.string value start last) stop inside behind = .error error)
    (h' : judged draft (.string value' start last) stop inside behind = .error error') :
    Refusals ('"' :: body) ('"' :: body') error error' .string := by
  by_cases hboth : HasText ('"' :: body) ∧ HasText ('"' :: body')
  · obtain ⟨⟨_, text, heq, htext⟩, ⟨_, text', heq', htext'⟩⟩ := hboth
    cases heq
    cases heq'
    obtain rfl := htext.eq_of_reads hvalue
    obtain rfl := htext'.eq_of_reads hvalue'
    have hother := settled_withPassword ⟨String.ofList text⟩ ⟨String.ofList text'⟩ h
    exact .same (Except.error.inj (hother.symm.trans h'))
  · exact .strings hboth (judged_string hvalue h) (judged_string hvalue' h')

end Judging

/-- **Documents that differ in the password alone**, by values of one kind and of the same length
in bytes, are refused with the same words, unless it is for the password: for a number, which is
quoted or out of range, or for a string without a text. -/
theorem refusal_tells_no_password {front behind v w : List Char} {kind : Kind}
    (hfront : UpToPassword front) (hv : Wellformed (.value kind) v)
    (hw : Wellformed (.value kind) w) (hbytes : Page.byteCount v = Page.byteCount w)
    (hbehind : Numeral.Ends behind) {error error' : CheckError}
    (h : ofDocument (String.ofList (front ++ (v ++ behind))) = .error error)
    (h' : ofDocument (String.ofList (front ++ (w ++ behind))) = .error error') :
    Refusals v w error error' kind := by
  obtain ⟨inside, hpassword⟩ := hfront.refused_or_judged
  obtain ⟨doc, stop, hdoc, hread⟩ := hv.read inside
  obtain ⟨doc', stop', hdoc', hread'⟩ := hw.read inside
  have hread := hread behind hbehind
  have hread' := hread' behind hbehind
  rcases hpassword with ⟨reason, hreason⟩ | ⟨draft, hjudge⟩
  · rw [hreason hv hread] at h
    rw [hreason hw hread'] at h'
    exact .same (Except.error.inj (h.symm.trans h'))
  have hjudged := (hjudge hv hread).symm.trans h
  have hjudged' := (hjudge hw hread').symm.trans h'
  cases kind with
  | null =>
      cases hv
      cases hw
      exact .same (Except.error.inj (h.symm.trans h'))
  | boolean =>
      cases hv with
      | boolean b =>
          cases hw with
          | boolean b' =>
              obtain rfl := boolChars_eq_of_byteCount hbytes
              exact .same (Except.error.inj (h.symm.trans h'))
  | number => exact .numbers (judged_number hdoc hjudged) (judged_number hdoc' hjudged')
  | string =>
      cases hv with
      | @string body hbody =>
          cases hw with
          | @string body' hbody' =>
              obtain ⟨value, hvalue, hread⟩ := Json.exists_readString hbody inside
              obtain ⟨value', hvalue', hread'⟩ := Json.exists_readString hbody' inside
              rw [Page.byteCount_cons, Page.byteCount_cons] at hbytes
              have hstop := hbody.pastAll_eq hbody' (Nat.add_left_cancel hbytes) (inside.past '"')
              rw [hjudge (.string hbody) (hread behind)] at h
              rw [hjudge (.string hbody') (hread' behind), ← hstop] at h'
              exact refusals_strings hvalue hvalue' h h'
  | array =>
      cases hdoc
      cases hdoc'
      exact .same ((judged_refused rfl hjudged).trans (judged_refused rfl hjudged').symm)
  | object =>
      cases hdoc
      cases hdoc'
      exact .same ((judged_refused rfl hjudged).trans (judged_refused rfl hjudged').symm)

/-! ### Two documents -/

theorem wellformed_stringChars (text : String) :
    Wellformed (.value .string) (Json.stringChars text) :=
  .string (Page.denotes_written text.toList).stringBody

/-- Settings with a host and a user, up to the password. -/
def hostAndUser : List Char :=
  '\x7b' :: (Json.stringChars "hostPort" ++ ':' :: (Json.stringChars "h" ++ ',' ::
    (Json.stringChars "username" ++ ':' :: (Json.stringChars "u" ++ ',' ::
      (Json.stringChars "password" ++ [':'])))))

theorem upToPassword_hostAndUser : UpToPassword hostAndUser := by
  have hblank : Blank [] := fun c hc => nomatch hc
  have hname := fun text : String => Page.denotes_written text.toList
  have hmember := fun (key value : String) {rest} (hrest : Leading rest) =>
    Leading.member (hname key).stringBody hblank hblank (wellformed_stringChars value) hblank
      hblank hrest
  exact .front hblank hblank (hmember "hostPort" "h" (hmember "username" "u" .nil))
    (hname "password") hblank hblank

/-- Behind either of two passwords the same member is refused at the same place. -/
theorem refusal_tells_no_password_of_two_letters :
    UpToPassword hostAndUser ∧
      Page.byteCount (Json.stringChars "ab") = Page.byteCount (Json.stringChars "é") ∧
      Refusals (Json.stringChars "ab") (Json.stringChars "é")
        (.serialization "invalid type: integer `5`, expected a boolean at line 1 column 60")
        (.serialization "invalid type: integer `5`, expected a boolean at line 1 column 60")
        .string := by
  have hbytes : Page.byteCount (Json.stringChars "ab") = Page.byteCount (Json.stringChars "é") := by
    decide
  have hbehind : Numeral.Ends ",\"encrypted\":5\x7d".toList := by
    rintro c tail h
    cases h
    decide
  have hrefused : ∀ password ∈ ["ab", "é"],
      ofDocument (String.ofList
        (hostAndUser ++ (Json.stringChars password ++ ",\"encrypted\":5\x7d".toList))) = .error
          (.serialization "invalid type: integer `5`, expected a boolean at line 1 column 60") := by
    decide +kernel
  exact ⟨upToPassword_hostAndUser, hbytes, refusal_tells_no_password upToPassword_hostAndUser
    (wellformed_stringChars "ab") (wellformed_stringChars "é") hbytes hbehind
    (hrefused _ (by simp)) (hrefused _ (by simp))⟩

/-- Two numbers of two digits are told apart by the words of the refusal. -/
theorem number_as_password_is_told :
    UpToPassword hostAndUser ∧ Wellformed (.value .number) "12".toList ∧
      Wellformed (.value .number) "13".toList ∧
      Page.byteCount "12".toList = Page.byteCount "13".toList ∧ Numeral.Ends "\x7d".toList ∧
      ofDocument (String.ofList (hostAndUser ++ ("12".toList ++ "\x7d".toList))) = .error
        (.serialization "invalid type: integer `12`, expected a string at line 1 column 44") ∧
      ofDocument (String.ofList (hostAndUser ++ ("13".toList ++ "\x7d".toList))) = .error
        (.serialization "invalid type: integer `13`, expected a string at line 1 column 44") := by
  have hnumeral : ∀ digit, Text.isDecimalDigit digit = true →
      Wellformed (.value .number) ['1', digit] := by
    intro digit hdigit
    have hdigits : ∀ d ∈ ['1', digit], Text.isDecimalDigit d = true := by
      simp only [List.forall_mem_cons]
      exact ⟨rfl, hdigit, by simp⟩
    exact .number (.parts (.inl rfl) (.digits (by decide) hdigits) .none .none)
  have hends : Numeral.Ends "\x7d".toList := by
    rintro c tail h
    cases h
    decide
  exact ⟨upToPassword_hostAndUser, hnumeral '2' rfl, hnumeral '3' rfl, rfl, hends,
    by decide +kernel, by decide +kernel⟩

end GraphSettings

end Preflight
