import Mathlib
import Preflight.Store.Catalog

/-!
# A recording is tried until it is settled

A catalog that never sends its client elsewhere answers every request of a
recording by one reply. Whether another request follows is decided by the status
of that reply alone, and the request is built once, before the first try. So the
requests of a recording are copies of one request, and what comes of them is what
the last reply says.

The number of tries is the only bound on a recording. One induction serves for
both ends that it can have: a reply that is not transient settles it, and if none
comes, the last try does (`CatalogStore.run_persist`).

## Main results

* `CatalogStore.request_eq_ok_iff` — the request of a recording, and when there is one.
* `CatalogStore.recording_tried_until_settled` — the requests of a recording and its
  result, read off the replies.
-/

namespace Preflight

/-! ## Replies -/

namespace Reply

/-- A reply that promises better luck later does not grant the request. -/
theorem not_isSuccess_of_isTransient {reply : Reply} (h : reply.isTransient = true) :
    reply.isSuccess = false := by
  simp only [isTransient, isSuccess, Bool.or_eq_true, Bool.and_eq_true, decide_eq_true_eq,
    Bool.and_eq_false_iff, decide_eq_false_iff_not] at h ⊢
  omega

/-- Does a reply send its client elsewhere? -/
def isRedirection (reply : Reply) : Bool :=
  (Web.isSeeOther reply.status || Web.isFound reply.status || Web.isMoved reply.status) &&
    (header? reply.headers "location").isSome

end Reply

namespace Web

variable {request : Request} {reply : Reply} {web : Web}

/-- A reply that sends its client nowhere is not followed. -/
theorem redirected?_eq_none (h : reply.isRedirection = false) :
    redirected? request reply = none := by
  unfold redirected?
  cases hlocation : Reply.header? reply.headers "location" with
  | none => rfl
  | some location =>
      have hstatus : (isSeeOther reply.status = false ∧ isFound reply.status = false) ∧
          isMoved reply.status = false := by
        simpa [Reply.isRedirection, hlocation] using h
      simp [isFetchedNext, hstatus.1, hstatus.2]

/-- The servers answer by these replies, one for each request to come. -/
def Answers (web : Web) (replies : Nat → Reply) : Prop :=
  ∀ n, web.turns.getD n .granted = .reply (replies n)

/-- The servers after some more requests, of which each met a turn. -/
def afterRequests (web : Web) (request : Request) (count : Nat) : Web :=
  ⟨web.turns.drop count, web.seen ++ List.replicate count (.request request)⟩

theorem afterRequests_afterRequests (count more : Nat) :
    (web.afterRequests request count).afterRequests request more =
      web.afterRequests request (count + more) := by
  simp only [afterRequests, List.drop_drop, List.append_assoc, List.replicate_append_replicate]

theorem Answers.afterRequest {replies : Nat → Reply} (h : web.Answers replies)
    (request : Request) : (web.afterRequests request 1).Answers fun n => replies (n + 1) := by
  intro n
  rw [← h (n + 1), afterRequests]
  simp only [List.getD_eq_getElem?_getD, List.getElem?_drop, Nat.add_comm 1 n]

theorem run_turn (h : web.turns.getD 0 .granted = .reply reply) :
    (turn request).run web = ⟨.reply reply, web.afterRequests request 1, []⟩ := by
  have hturn : web.turns.headD .granted = .reply reply := by
    rw [← h]
    cases web.turns <;> rfl
  show (⟨web.turns.headD .granted, ⟨web.turns.tail, _⟩, []⟩ : Outcome Web WebTurn) = _
  rw [hturn, afterRequests, List.drop_one]
  rfl

theorem run_sendFollowing (start : Url) (left : Nat)
    (h : web.turns.getD 0 .granted = .reply reply) (hstays : reply.isRedirection = false) :
    (sendFollowing start left request).run web = ⟨.ok reply, web.afterRequests request 1, []⟩ := by
  rw [sendFollowing.eq_def, Act.run_bind, run_turn h]
  simp only [redirected?_eq_none hstays, Act.run_pure, List.append_nil]

end Web

/-! ## Tries -/

namespace CatalogStore

variable {request : Request} {web : Web} {replies : Nat → Reply}

/-- What a recording comes to by a reply that settles it. -/
def settled (reply : Reply) : Except CheckError Unit :=
  if reply.isSuccess then .ok ()
  else
    .error (.workflow
      ("catalog API returned HTTP " ++ Reply.statusText reply.status ++ ": " ++ reply.body))

theorem run_tryOnce {reply : Reply} (h : web.turns.getD 0 .granted = .reply reply)
    (hstays : reply.isRedirection = false) :
    (tryOnce request).run web =
      ⟨if reply.isSuccess then .ok () else .error (setbackOfReply reply),
        web.afterRequests request 1, []⟩ := by
  rw [tryOnce, Act.run_bind, Web.send, Web.run_sendFollowing _ _ h hstays]
  simp only [Act.run_pure, List.append_nil]

/-- A recording is tried as long as the replies are transient, and the first other reply settles
it, or else the reply to the last try. -/
theorem run_persist (hanswers : web.Answers replies)
    (hstay : ∀ n, (replies n).isRedirection = false) {more count : Nat} (hle : count ≤ more)
    (htransient : ∀ i < count, (replies i).isTransient = true)
    (hlast : count = more ∨ (replies count).isTransient = false) :
    (persist request more).run web =
      ⟨settled (replies count), web.afterRequests request (count + 1), []⟩ := by
  -- the tries that are left go down with the replies that are still to be passed
  induction count generalizing web replies more with
  | zero =>
      have htry : (tryOnce request).run web = _ := run_tryOnce (hanswers 0) (hstay 0)
      by_cases hsuccess : (replies 0).isSuccess = true
      · cases more <;> simp [persist, htry, settled, hsuccess]
      · cases more with
        | zero => simp [persist, htry, settled, hsuccess, setbackOfReply]
        | succ more =>
            have hsettles : (replies 0).isTransient = false := by simpa using hlast
            simp [persist, htry, settled, hsuccess, setbackOfReply, hsettles]
  | succ count ih =>
      obtain ⟨more, rfl⟩ : ∃ rest, more = rest + 1 := ⟨more - 1, by omega⟩
      have htry : (tryOnce request).run web = _ := run_tryOnce (hanswers 0) (hstay 0)
      have hagain : (replies 0).isTransient = true := htransient 0 (by omega)
      have hsuccess := Reply.not_isSuccess_of_isTransient hagain
      have hrest := ih (hanswers.afterRequest request) (fun n => hstay (n + 1))
        (Nat.le_of_succ_le_succ hle) (fun i hi => htransient (i + 1) (by omega)) (by simpa using hlast)
      rw [persist, Act.run_bind, htry]
      simp only [hsuccess, Bool.false_eq_true, if_false, setbackOfReply, hagain, if_true, hrest,
        Web.afterRequests_afterRequests, List.append_nil]
      rw [Nat.add_comm 1 (count + 1)]

/-! ## Recordings -/

/-- The workflow has an address on the web, and the token, if there is one, can stand in a header. -/
structure Addresses (store : CatalogStore) (workflow : Workflow) (url : Url) : Prop where
  parse : Url.parse (store.workflowAddress workflow) = .ok url
  host : url.host ≠ none
  scheme : url.scheme = "http" ∨ url.scheme = "https"
  token : ∀ token, store.token = some token → ∀ c ∈ token.value.toList, isHeaderChar c = true

/-- The request that patches the workflow at a URL. -/
def patchRequest (store : CatalogStore) (url : Url) (report : Report) : Request where
  method := "PATCH"
  url := plainUrl url
  contentType := some patchType
  authorization := (store.token.map bearer).or (basic? url)
  body := some (patch report).compact

/-- What comes of building a request: the text of the address, the URL in it or the token is of no
use, or else the request patches the workflow at its address. -/
theorem request_cases (store : CatalogStore) (workflow : Workflow) (report : Report) :
    store.request workflow report = .error "builder error" ∨
      (∃ url : Url, store.request workflow report =
        .error ("builder error for url (" ++ url.text ++ ")")) ∨
      ∃ url, store.Addresses workflow url ∧
        store.request workflow report = .ok (store.patchRequest url report) := by
  unfold CatalogStore.request
  cases hparse : Url.parse (store.workflowAddress workflow) with
  | error fault => exact .inl rfl
  | ok url =>
      dsimp only
      by_cases hhost : url.host.isNone = true
      · rw [if_pos hhost]
        exact .inr (.inl ⟨plainUrl url, rfl⟩)
      rw [if_neg hhost]
      by_cases htoken : (store.token.any fun token => !token.value.toList.all isHeaderChar) = true
      · rw [if_pos htoken]
        exact .inl rfl
      rw [if_neg htoken]
      by_cases hscheme : url.scheme ≠ "http" ∧ url.scheme ≠ "https"
      · rw [if_pos hscheme]
        exact .inr (.inl ⟨plainUrl url, rfl⟩)
      rw [if_neg hscheme]
      refine .inr (.inr ⟨url, ⟨hparse, ?_, ?_, ?_⟩, rfl⟩)
      · simpa using hhost
      · by_cases hhttp : url.scheme = "http"
        · exact .inl hhttp
        · exact .inr (by simpa [hhttp] using hscheme)
      · intro token htokens c hc
        rw [htokens] at htoken
        simp at htoken
        exact htoken c hc

/-- The request of a recording, and when there is one. -/
theorem request_eq_ok_iff {store : CatalogStore} {workflow : Workflow} {report : Report}
    {request : Request} :
    store.request workflow report = .ok request ↔
      ∃ url, store.Addresses workflow url ∧ request = store.patchRequest url report := by
  constructor
  · intro h
    rcases store.request_cases workflow report with hcase | ⟨_, hcase⟩ | ⟨url, haddresses, hcase⟩
    · cases h.symm.trans hcase
    · cases h.symm.trans hcase
    · exact ⟨url, haddresses, Except.ok.inj (h.symm.trans hcase)⟩
  · rintro ⟨url, haddresses, rfl⟩
    have htoken : (store.token.any fun token => !token.value.toList.all isHeaderChar) = false := by
      cases htokens : store.token with
      | none => rfl
      | some token => simpa [htokens] using haddresses.token token htokens
    have hscheme : ¬(url.scheme ≠ "http" ∧ url.scheme ≠ "https") := by
      have := haddresses.scheme
      tauto
    have hhost : url.host.isNone = false := by
      simpa [Option.isSome_iff_ne_none] using haddresses.host
    simp only [CatalogStore.request, haddresses.parse, hhost, htoken, hscheme]
    rfl

/-- The number of times that a recording may be tried. -/
def tries (store : CatalogStore) : Nat := max 1 store.patience

section Recording

variable (store : CatalogStore) (workflow : Workflow) (report : Report) (web : Web)

theorem run_record_of_addresses {url : Url} (h : store.Addresses workflow url) :
    let done := (store.record workflow report).run web
    let persisted := (persist (store.patchRequest url report) (store.tries - 1)).run web
    done.value = persisted.value ∧ done.world = persisted.world := by
  have hrequest : store.request workflow report = .ok (store.patchRequest url report) :=
    request_eq_ok_iff.mpr ⟨url, h, rfl⟩
  have htries : store.tries - 1 = store.patience - 1 := by
    rw [tries]
    omega
  rw [htries]
  simp only [record, Act.run_bind, Act.run_note, hrequest, and_self]

theorem run_record_of_error {reason : String}
    (h : store.request workflow report = .error reason) :
    let done := (store.record workflow report).run web
    done.world = web ∧ done.value = .error (.workflow ("catalog API request failed: " ++ reason)) := by
  simp only [record, Act.run_bind, Act.run_note, h, Act.run_pure, and_self]

theorem run_record_of_not_addresses (h : ∀ url, ¬store.Addresses workflow url) :
    let done := (store.record workflow report).run web
    done.world = web ∧
      ∃ reason, done.value = .error (.workflow ("catalog API request failed: " ++ reason)) := by
  cases hrequest : store.request workflow report with
  | ok request =>
      obtain ⟨url, haddresses, _⟩ := request_eq_ok_iff.mp hrequest
      exact absurd haddresses (h url)
  | error reason =>
      obtain ⟨hworld, hvalue⟩ := store.run_record_of_error workflow report web hrequest
      exact ⟨hworld, reason, hvalue⟩

/-- **A recording is tried until it is settled.** If the workflow has an address on
the web and the token can stand in a header, one and the same request is sent for
each reply up to the first that is not transient, and none after it; the recording
succeeds exactly if this reply grants it, and its error shows status and body of
the reply if not. If every try meets a transient reply, the error is the one of
the last. If there is no such address or the token is of no use, nothing is sent,
and the recording fails. -/
theorem recording_tried_until_settled (replies : Nat → Reply) (hanswers : web.Answers replies)
    (hstay : ∀ n, (replies n).isRedirection = false) :
    let done := (store.record workflow report).run web
    (∀ url, store.Addresses workflow url →
      let request := store.patchRequest url report
      (∀ count < store.tries, (∀ i < count, (replies i).isTransient = true) →
        (replies count).isTransient = false →
          done.world = web.afterRequests request (count + 1) ∧
          done.value = settled (replies count)) ∧
      ((∀ i < store.tries, (replies i).isTransient = true) →
        done.world = web.afterRequests request store.tries ∧
        done.value = settled (replies (store.tries - 1)) ∧ done.value ≠ .ok ())) ∧
    ((∀ url, ¬store.Addresses workflow url) →
      done.world = web ∧
        ∃ reason, done.value = .error (.workflow ("catalog API request failed: " ++ reason))) := by
  intro done
  have htries : 0 < store.tries := by
    rw [tries]
    omega
  refine ⟨fun url haddresses => ?_, store.run_record_of_not_addresses workflow report web⟩
  obtain ⟨hvalue, hworld⟩ := store.run_record_of_addresses workflow report web haddresses
  constructor
  · intro count hcount htransient hsettles
    have hrun : (persist (store.patchRequest url report) (store.tries - 1)).run web = _ :=
      run_persist hanswers hstay
      (Nat.le_sub_one_of_lt hcount) htransient (.inr hsettles)
    exact ⟨hworld.trans (by rw [hrun]), hvalue.trans (by rw [hrun])⟩
  · intro htransient
    have hrun : (persist (store.patchRequest url report) (store.tries - 1)).run web = _ :=
      run_persist hanswers hstay
      (Nat.le_refl (store.tries - 1)) (fun i hi => htransient i (by omega)) (.inl rfl)
    have hlast := Reply.not_isSuccess_of_isTransient (htransient (store.tries - 1) (by omega))
    have hsettled : done.value = settled (replies (store.tries - 1)) :=
      hvalue.trans (by rw [hrun])
    refine ⟨?_, hsettled, ?_⟩
    · rw [hworld, hrun, Nat.sub_add_cancel htries]
    · rw [hsettled, settled, hlast]
      simp

end Recording

/-- A store on a catalog that asks for a token. -/
def guardedCatalog (token : String) : CatalogStore := ⟨"http://catalog", some ⟨token⟩, 5⟩

/-- The workflow of the examples. -/
def nightly : Workflow := ⟨⟨1⟩, "nightly"⟩

/-- The address of the workflow. -/
def nightlyUrl : Url where
  scheme := "http"
  host := some (.domain "catalog")
  path := "/api/v1/automations/workflows/00000000-0000-0000-0000-000000000001"

/-- Replies of a catalog that is busy, asks for patience, and then does not know the workflow. -/
def busyReplies : Nat → Reply
  | 0 => ⟨503, [], "busy"⟩
  | 1 => ⟨429, [], ""⟩
  | 2 => ⟨404, [], "no such workflow"⟩
  | _ => ⟨200, [], ""⟩

/-- The catalog that gives them. -/
def busyWeb : Web where
  turns := [.reply (busyReplies 0), .reply (busyReplies 1), .reply (busyReplies 2)]

theorem addresses_guardedCatalog :
    (guardedCatalog "jwt-token").Addresses nightly nightlyUrl where
  parse := by decide
  host := by decide
  scheme := .inl rfl
  token := by
    rintro _ ⟨⟩
    exact List.all_eq_true.mp (by decide)

theorem recording_tried_until_gone :
    let request := (guardedCatalog "jwt-token").patchRequest nightlyUrl (.of "Neo4j" [] .epoch)
    let done := ((guardedCatalog "jwt-token").record nightly (.of "Neo4j" [] .epoch)).run busyWeb
    (busyWeb.Answers busyReplies ∧ ∀ n, (busyReplies n).isRedirection = false) ∧
      request.authorization = some "Bearer jwt-token" ∧
      done.world = ⟨[], [.request request, .request request, .request request]⟩ ∧
      done.value =
        .error (.workflow "catalog API returned HTTP 404 Not Found: no such workflow") := by
  intro request done
  have hanswers : busyWeb.Answers busyReplies := by
    rintro (_ | _ | _ | n) <;> rfl
  have hstay : ∀ n, (busyReplies n).isRedirection = false := by
    rintro (_ | _ | _ | n) <;> rfl
  obtain ⟨hworld, hvalue⟩ := ((recording_tried_until_settled (guardedCatalog "jwt-token") nightly
    (.of "Neo4j" [] .epoch) busyWeb busyReplies hanswers hstay).1 nightlyUrl
      addresses_guardedCatalog).1 2 (by decide) (by decide) rfl
  exact ⟨⟨hanswers, hstay⟩, by decide, hworld, hvalue.trans (by cbv)⟩

/-- A token with a line break cannot be sent: there is no request although the catalog would grant
the first one. -/
theorem broken_token_is_not_sent :
    let web : Web := ⟨[.reply ⟨200, [], ""⟩], []⟩
    let done := ((guardedCatalog "line\nbreak").record nightly (.of "Neo4j" [] .epoch)).run web
    web.Answers (fun _ => ⟨200, [], ""⟩) ∧ (⟨200, [], ""⟩ : Reply).isRedirection = false ∧
      0 < (guardedCatalog "line\nbreak").tries ∧ (⟨200, [], ""⟩ : Reply).isTransient = false ∧
      done.world.seen.length = 0 ∧
      done.value = .error (.workflow "catalog API request failed: builder error") := by
  intro web done
  refine ⟨?_, rfl, by decide, rfl, ?_, ?_⟩
  · rintro (_ | n) <;> rfl
  · decide
  · decide

end CatalogStore

end Preflight
