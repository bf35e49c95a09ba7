import Preflight.Proofs.Alike
import Preflight.Proofs.Conversation
import Preflight.Proofs.Scrubbing

/-!
# The token in the errors of a recording

A token is shown to the servers and to nobody else: it stands in one header, and
neither the choice of what is sent next nor the words of an error look at headers.
So two recordings with different tokens, whose servers take the same turns, end
with the same error (`CatalogStore.alike_record`). Nothing of a token comes into an
error by the recording itself.

It can come back with a reply, though. The error of a reply that does not grant the
request ends in the body of the reply, as it is, and a server may repeat in it what
it was sent. An error whose reply has the token in its body has the token in its
text.

## Main results

* `CatalogStore.token_shown_by_replies` — what of a token is in the error of a recording.
-/

namespace Preflight

/-- The servers will take the same turns. -/
def Web.SameTurns (web web' : Web) : Prop := web.turns = web'.turns

namespace Web

variable {request request' : Request}

/-- Where a redirection leads depends on the place that it leads away from. -/
theorem map_url_redirected? (request : Request) (reply : Reply) :
    (redirected? request reply).map Request.url =
      if isSeeOther reply.status || isFound reply.status || isMoved reply.status then
        (Reply.header? reply.headers "location").bind fun location =>
          (request.url.follow location).toOption
      else none := by
  unfold redirected?
  cases Reply.header? reply.headers "location" with
  | none => simp
  | some location =>
      cases hfollow : (request.url.follow location).toOption with
      | none => simp [hfollow]
      | some url =>
          simp only [hfollow, Option.bind_eq_bind, Option.bind_some]
          by_cases hfetched : isFetchedNext request reply.status = true
          · have hleads : (isSeeOther reply.status || isFound reply.status ||
                isMoved reply.status) = true := by
              simp only [isFetchedNext, Bool.or_eq_true, Bool.and_eq_true] at hfetched ⊢
              exact .inl (hfetched.imp_right And.left)
            rw [if_pos hfetched, if_pos hleads]
            rfl
          · have hother : isSeeOther reply.status = false := by
              simp only [isFetchedNext, Bool.or_eq_true, not_or, Bool.not_eq_true] at hfetched
              exact hfetched.1
            rw [if_neg hfetched, hother, Bool.false_or]
            split <;> rfl

theorem alike_turn (request request' : Request) :
    Act.Alike SameTurns Eq (turn request) (turn request') := by
  intro web web' hturns
  have hturns : web.turns = web'.turns := hturns
  refine ⟨?_, ?_, rfl⟩
  · show web.turns.headD .granted = web'.turns.headD .granted
    rw [hturns]
  · show web.turns.tail = web'.turns.tail
    rw [hturns]

/-- What a request comes to depends on its place alone, if the chain began at one place. -/
theorem alike_sendFollowing {request request' : Request} (start : Url) (left : Nat)
    (hurl : request.url = request'.url) :
    Act.Alike SameTurns Eq (sendFollowing start left request)
      (sendFollowing start left request') := by
  rw [sendFollowing.eq_def, sendFollowing.eq_def]
  refine (alike_turn request request').bind ?_
  rintro turn _ rfl
  cases turn with
  | refused => exact Act.alike_pure rfl
  | garbled => exact Act.alike_pure rfl
  | reply reply =>
      dsimp only
      have hnext : (redirected? request reply).map Request.url =
          (redirected? request' reply).map Request.url := by
        rw [map_url_redirected?, map_url_redirected?, hurl]
      cases hredirected : redirected? request reply with
      | none =>
          rw [hredirected, Option.map_none] at hnext
          rw [Option.map_eq_none_iff.mp hnext.symm]
          exact Act.alike_pure rfl
      | some next =>
          rw [hredirected, Option.map_some] at hnext
          obtain ⟨next', hredirected', hnexts⟩ := Option.map_eq_some_iff.mp hnext.symm
          rw [hredirected']
          dsimp only
          cases left with
          | zero => exact Act.alike_pure (by rw [hurl])
          | succ left =>
              dsimp only
              rw [hnexts]
              split
              · exact alike_sendFollowing start left hnexts.symm
              · exact Act.alike_pure rfl

theorem alike_send (hurl : request.url = request'.url) :
    Act.Alike SameTurns Eq (send request) (send request') := by
  rw [send, send, hurl]
  exact alike_sendFollowing request'.url redirectionLimit hurl

end Web

namespace CatalogStore

variable {request request' : Request}

theorem alike_tryOnce (hurl : request.url = request'.url) :
    Act.Alike Web.SameTurns Eq (tryOnce request) (tryOnce request') := by
  refine (Web.alike_send hurl).bind ?_
  rintro answer _ rfl
  cases answer with
  | error fault => exact Act.alike_pure rfl
  | ok reply => exact Act.alike_pure rfl

theorem alike_persist (more : Nat) (hurl : request.url = request'.url) :
    Act.Alike Web.SameTurns Eq (persist request more) (persist request' more) := by
  rw [persist.eq_def, persist.eq_def]
  cases more with
  | zero =>
      refine (alike_tryOnce hurl).bind ?_
      rintro answer _ rfl
      cases answer <;> exact Act.alike_pure rfl
  | succ more =>
      refine (alike_tryOnce hurl).bind ?_
      rintro answer _ rfl
      cases answer with
      | ok _ => exact Act.alike_pure rfl
      | error setback =>
          dsimp only
          split
          · exact alike_persist more hurl
          · exact Act.alike_pure rfl

/-- Can the token stand in a header? -/
def isSendable (token : Secret) : Bool := token.value.toList.all isHeaderChar

/-- The store with another token. -/
def withToken (store : CatalogStore) (token : Secret) : CatalogStore :=
  { store with token := some token }

/-- Where a request goes, and why there is none, is the same for stores on one catalog. -/
theorem url_request_eq {store store' : CatalogStore} (workflow : Workflow) (report : Report)
    (hbase : store.base = store'.base)
    (htokens : (store.token.any fun token => !token.value.toList.all isHeaderChar) =
      store'.token.any fun token => !token.value.toList.all isHeaderChar) :
    (store.request workflow report).map Request.url =
      (store'.request workflow report).map Request.url := by
  unfold CatalogStore.request workflowAddress
  rw [hbase, htokens]
  cases Url.parse (store'.base ++ "/api/v1/automations/workflows/" ++ workflow.id.text) with
  | error fault => rfl
  | ok url =>
      dsimp only
      split
      · rfl
      · split
        · rfl
        · split <;> rfl

/-- Recordings with different tokens are alike if both can be sent, or none. -/
theorem alike_record (store : CatalogStore) (workflow : Workflow) (report : Report)
    {token token' : Secret} (hsendable : isSendable token = isSendable token') :
    Act.Alike Web.SameTurns Eq ((store.withToken token).record workflow report)
      ((store.withToken token').record workflow report) := by
  unfold record
  refine (Act.alike_note _).bind fun _ _ _ => ?_
  have hrequest : ((store.withToken token).request workflow report).map Request.url =
      ((store.withToken token').request workflow report).map Request.url :=
    url_request_eq workflow report rfl (congrArg (!·) hsendable)
  cases hleft : (store.withToken token).request workflow report with
  | error reason =>
      cases hright : (store.withToken token').request workflow report with
      | error reason' =>
          rw [hleft, hright] at hrequest
          cases hrequest
          exact Act.alike_pure rfl
      | ok request' => rw [hleft, hright] at hrequest; cases hrequest
  | ok request =>
      cases hright : (store.withToken token').request workflow report with
      | error reason' => rw [hleft, hright] at hrequest; cases hrequest
      | ok request' =>
          rw [hleft, hright] at hrequest
          exact alike_persist _ (Except.ok.inj hrequest)

end CatalogStore

/-! ## Words and bodies -/

namespace Secret

variable {secret : Secret} {before after : String}

/-- The secret begins at the end of one text and ends at the beginning of the next. -/
def LiesAcross (secret : Secret) (before after : String) : Prop :=
  ∃ front back, secret.value.toList = front ++ back ∧ (front ≠ [] ∧ front <:+ before.toList) ∧
    (back ≠ [] ∧ back <+: after.toList)

theorem occursIn_append_right (before : String) (h : secret.OccursIn after) :
    secret.OccursIn (before ++ after) := by
  rw [OccursIn, String.toList_append]
  exact List.IsInfix.trans h (List.suffix_append _ _).isInfix

theorem occursIn_append_left (after : String) (h : secret.OccursIn before) :
    secret.OccursIn (before ++ after) := by
  rw [OccursIn, String.toList_append]
  exact List.IsInfix.trans h (List.prefix_append _ _).isInfix

/-- A secret is in one of two texts, or across the seam between them. -/
theorem occursIn_append_iff :
    secret.OccursIn (before ++ after) ↔
      secret.OccursIn before ∨ secret.OccursIn after ∨ secret.LiesAcross before after := by
  constructor
  · intro h
    rw [OccursIn, String.toList_append] at h
    obtain ⟨start, stop, hwhole⟩ := h
    -- The first text ends behind the secret, inside it, or in front of it.
    rcases List.append_eq_append_iff.mp hwhole with ⟨rest, hbefore, _⟩ | ⟨rest, hinner, hafter⟩
    · exact .inl ⟨start, rest, hbefore.symm⟩
    · rcases List.append_eq_append_iff.mp hinner with ⟨front, hbefore, hsecret⟩ | ⟨gap, _, hrest⟩
      · by_cases hfront : front = []
        · rw [hfront, List.nil_append] at hsecret
          exact .inr (.inl ⟨[], stop, by rw [hsecret, hafter, List.nil_append]⟩)
        · by_cases hback : rest = []
          · rw [hback, List.append_nil] at hsecret
            exact .inl ⟨start, [], by rw [hsecret, hbefore, List.append_nil]⟩
          · exact .inr (.inr ⟨front, rest, hsecret, ⟨hfront, start, hbefore.symm⟩,
              hback, stop, hafter.symm⟩)
      · exact .inr (.inl ⟨gap, stop, by rw [hafter, hrest]⟩)
  · rintro (h | h | ⟨front, back, hsecret, ⟨_, start, hbefore⟩, _, stop, hafter⟩)
    · exact occursIn_append_left after h
    · exact occursIn_append_right before h
    · refine ⟨start, stop, ?_⟩
      rw [String.toList_append, hsecret, ← hbefore, ← hafter]
      simp only [List.append_assoc]

/-- A secret without blanks lies across no seam that has a blank in front of it. -/
theorem not_liesAcross_of_getLast? (hblank : before.toList.getLast? = some ' ')
    (hsecret : ' ' ∉ secret.value.toList) : ¬secret.LiesAcross before after := by
  rintro ⟨front, back, hparts, ⟨hfront, start, hbefore⟩, _⟩
  rw [← hbefore, List.getLast?_append_of_ne_nil _ hfront, List.getLast?_eq_some_getLast hfront]
    at hblank
  apply hsecret
  rw [hparts, ← Option.some.inj hblank]
  exact List.mem_append_left back (List.getLast_mem hfront)

end Secret

/-! ## What errors show -/

namespace CatalogStore

variable {request : Request}

/-- The words that a recording has of its own in an error. -/
inductive IsOwnWords : String → Prop
  | unbuilt : IsOwnWords (CheckError.workflow "catalog API request failed: builder error").message
  | fault (fault : SendFault) :
      IsOwnWords (CheckError.workflow ("catalog API request failed: " ++ fault.message)).message
  | status (status : Nat) :
      IsOwnWords (CheckError.workflow
        ("catalog API returned HTTP " ++ Reply.statusText status ++ ": ")).message

/-- The reason of a failure says why a request was not sent or not answered, or it ends in the body
of the last reply. -/
def IsReason (reason : String) (talk : List Exchange) : Prop :=
  reason = "catalog API request failed: builder error" ∨
    (∃ fault : SendFault, reason = "catalog API request failed: " ++ fault.message) ∨
    ∃ before request reply, talk = before ++ [⟨request, .reply reply⟩] ∧
      reason =
        "catalog API returned HTTP " ++ Reply.statusText reply.status ++ ": " ++ reply.body

theorem isReason_append {reason : String} {talk : List Exchange} (earlier : List Exchange)
    (h : IsReason reason talk) : IsReason reason (earlier ++ talk) := by
  rcases h with hunbuilt | hfault | ⟨before, request, reply, rfl, hreason⟩
  · exact .inl hunbuilt
  · exact .inr (.inl hfault)
  · exact .inr (.inr ⟨earlier ++ before, request, reply, (List.append_assoc ..).symm, hreason⟩)

/-- A request that cannot be built has its reason in the address or in the token. -/
theorem isReason_of_request_error {store : CatalogStore} {workflow : Workflow} {report : Report}
    {reason : String} (h : store.request workflow report = .error reason) :
    IsReason ("catalog API request failed: " ++ reason) [] := by
  rcases store.request_cases workflow report with hcase | ⟨url, hcase⟩ | ⟨url, _, hcase⟩
  · obtain rfl := Except.error.inj (h.symm.trans hcase)
    exact .inl rfl
  · obtain rfl := Except.error.inj (h.symm.trans hcase)
    exact .inr (.inl ⟨.badScheme url, rfl⟩)
  · cases h.symm.trans hcase

theorem talks_tryOnce_reason (hrequest : request.IsOfRecording) :
    Act.Talks (fun answer talk => ∀ setback, answer = .error setback →
      IsReason setback.reason talk) (tryOnce request) := by
  refine (Web.talks_sendFollowing _ Web.redirectionLimit hrequest).bind
    fun answer talk hanswer => ?_
  cases answer with
  | error fault =>
      refine Act.talks_pure ?_
      rintro _ ⟨⟩
      exact .inr (.inl ⟨fault, rfl⟩)
  | ok reply =>
      obtain ⟨before, last, rfl, _⟩ := hanswer
      refine Act.talks_pure ?_
      intro setback hsetback
      split at hsetback
      · cases hsetback
      · cases hsetback
        exact .inr (.inr ⟨before, last, reply, List.append_nil _, rfl⟩)

theorem talks_persist_reason (more : Nat) (hrequest : request.IsOfRecording) :
    Act.Talks (fun answer talk => ∀ error, answer = .error error →
      ∃ reason, error = .workflow reason ∧ IsReason reason talk) (persist request more) := by
  apply talks_persist_of_tryOnce (talks_tryOnce_reason hrequest)
  · rintro talk _ error ⟨⟩
  · rintro setback talk htry error ⟨⟩
    exact ⟨setback.reason, rfl, htry setback rfl⟩
  · intro setback talk answer later _ hlater error herror
    obtain ⟨reason, hworkflow, hreason⟩ := hlater error herror
    exact ⟨reason, hworkflow, isReason_append talk hreason⟩

/-- The reason of a recording's failure, beside the conversation that led to it. -/
theorem exists_isReason_of_record (store : CatalogStore) (workflow : Workflow) (report : Report)
    (web : Web) {error : CheckError}
    (h : ((store.record workflow report).run web).value = .error error) :
    ∃ reason talk, error = .workflow reason ∧
      Web.Talk web talk ((store.record workflow report).run web).world ∧ IsReason reason talk := by
  cases hrequest : store.request workflow report with
  | error reason =>
      obtain ⟨hworld, hvalue⟩ := store.run_record_of_error workflow report web hrequest
      refine ⟨_, [], Except.error.inj (h.symm.trans hvalue), ?_, isReason_of_request_error hrequest⟩
      rw [hworld]
      exact .silent web
  | ok request =>
      obtain ⟨url, haddresses, rfl⟩ := request_eq_ok_iff.mp hrequest
      obtain ⟨hvalue, hworld⟩ := store.run_record_of_addresses workflow report web haddresses
      have hpatch : (store.patchRequest url report).IsOfRecording := .inl rfl
      obtain ⟨talk, htalk, hreasons⟩ := talks_persist_reason (store.tries - 1) hpatch web
      obtain ⟨reason, hworkflow, hreason⟩ := hreasons error (hvalue.symm.trans h)
      rw [← hworld] at htalk
      exact ⟨reason, talk, hworkflow, htalk, hreason⟩

/-- Whatever occurs in the body of a reply occurs in the error that ends in it. -/
theorem occursIn_message {secret : Secret} {reply : Reply} (h : secret.OccursIn reply.body) :
    secret.OccursIn (CheckError.workflow (setbackOfReply reply).reason).message :=
  Secret.occursIn_append_right "Workflow error: " (Secret.occursIn_append_right
    ("catalog API returned HTTP " ++ Reply.statusText reply.status ++ ": ") h)

/-- The words of an error on a reply end in a blank. -/
theorem getLast?_message_status (status : Nat) :
    (CheckError.workflow ("catalog API returned HTTP " ++ Reply.statusText status ++
      ": ")).message.toList.getLast? = some ' ' := by
  have hend : (": " : String).toList = [':', ' '] := by decide
  show ("Workflow error: " ++ ("catalog API returned HTTP " ++ Reply.statusText status ++
    ": ")).toList.getLast? = some ' '
  rw [← String.append_assoc, String.toList_append, hend,
    List.getLast?_append_of_ne_nil _ (List.cons_ne_nil _ _)]
  rfl

/-- **What of a token is in the error of a recording** was sent back by the catalog. A
recording with another token, to which the servers take the same turns, ends in the
same way, if both tokens can stand in a header or neither can. An error tells that
there was no reply, or it ends in the body of the last reply as it is; and then it
has the token in its text if the body has. It has the token in its text only if the
words do that every recording has, or this body; or, if there is a blank in the
token, where the words end and the body begins. -/
theorem token_shown_by_replies (store : CatalogStore) (workflow : Workflow) (report : Report)
    (token : Secret) (web : Web) :
    let done := ((store.withToken token).record workflow report).run web
    (∀ token' web', isSendable token' = isSendable token → web'.turns = web.turns →
      (((store.withToken token').record workflow report).run web').value = done.value) ∧
    (∀ error, done.value = .error error → ∃ reason, error = .workflow reason ∧
      ((∃ fault, reason = "catalog API request failed: " ++ fault) ∨
        ∃ before request reply,
          Web.Talk web (before ++ [⟨request, .reply reply⟩]) done.world ∧
          reason =
            "catalog API returned HTTP " ++ Reply.statusText reply.status ++ ": " ++ reply.body ∧
          (token.OccursIn reply.body → token.OccursIn error.message))) ∧
    ∀ error, done.value = .error error → token.OccursIn error.message →
      ∃ own body, IsOwnWords own ∧ error.message = own ++ body ∧
        (token.OccursIn own ∨
          (∃ before request reply,
            Web.Talk web (before ++ [⟨request, .reply reply⟩]) done.world ∧ body = reply.body) ∧
          (token.OccursIn body ∨ token.LiesAcross own body ∧ ' ' ∈ token.value.toList)) := by
  intro done
  refine ⟨?_, ?_, ?_⟩
  · intro token' web' hsendable hturns
    exact (alike_record store workflow report hsendable web' web hturns).1
  · intro error herror
    obtain ⟨reason, talk, rfl, htalk, hreason⟩ :=
      (store.withToken token).exists_isReason_of_record workflow report web herror
    refine ⟨reason, rfl, ?_⟩
    rcases hreason with rfl | ⟨fault, rfl⟩ | ⟨before, request, reply, rfl, rfl⟩
    · exact .inl ⟨"builder error", rfl⟩
    · exact .inl ⟨fault.message, rfl⟩
    · exact .inr ⟨before, request, reply, htalk, rfl, occursIn_message⟩
  · intro error herror hshown
    obtain ⟨reason, talk, rfl, htalk, hreason⟩ :=
      (store.withToken token).exists_isReason_of_record workflow report web herror
    rcases hreason with rfl | ⟨fault, rfl⟩ | ⟨before, request, reply, rfl, rfl⟩
    · exact ⟨_, "", .unbuilt, String.append_empty.symm, .inl hshown⟩
    · exact ⟨_, "", .fault fault, String.append_empty.symm, .inl hshown⟩
    · have hmessage : (CheckError.workflow ("catalog API returned HTTP " ++
          Reply.statusText reply.status ++ ": " ++ reply.body)).message =
          (CheckError.workflow ("catalog API returned HTTP " ++ Reply.statusText reply.status ++
            ": ")).message ++ reply.body := (String.append_assoc ..).symm
      refine ⟨_, reply.body, .status reply.status, hmessage, ?_⟩
      rw [hmessage] at hshown
      rcases Secret.occursIn_append_iff.mp hshown with hown | hbody | hacross
      · exact .inl hown
      · exact .inr ⟨⟨before, request, reply, htalk, rfl⟩, .inl hbody⟩
      · refine .inr ⟨⟨before, request, reply, htalk, rfl⟩, .inr ⟨hacross, ?_⟩⟩
        by_contra hblank
        exact Secret.not_liesAcross_of_getLast? (getLast?_message_status _) hblank hacross

/-- A catalog that quotes the header it was sent. -/
def quotingWeb : Web where
  turns := [.reply ⟨404, [], "no workflow for Bearer jwt-token"⟩]

/-- The error shows a token that the catalog quotes. -/
theorem quoted_token_is_shown :
    let token : Secret := ⟨"jwt-token"⟩
    let done := ((guardedCatalog "jwt-token").record nightly (.of "Neo4j" [] .epoch)).run quotingWeb
    token.isEmpty = false ∧ '*' ∉ token.value.toList ∧
      ∃ error, done.value = .error error ∧ token.OccursIn error.message := by
  intro token done
  obtain ⟨hvalue, _⟩ := (guardedCatalog "jwt-token").run_record_of_addresses nightly
    (.of "Neo4j" [] .epoch) quotingWeb addresses_guardedCatalog
  have hpersist : ((persist ((guardedCatalog "jwt-token").patchRequest nightlyUrl
      (.of "Neo4j" [] .epoch)) 4).run quotingWeb).value = .error (.workflow (setbackOfReply
        ⟨404, [], "no workflow for Bearer jwt-token"⟩).reason) := by
    rw [persist, Act.run_bind, run_tryOnce rfl rfl]
    rfl
  exact ⟨by decide, by decide, _, hvalue.trans hpersist, occursIn_message (by decide)⟩

end CatalogStore

end Preflight
