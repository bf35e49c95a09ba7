import Preflight.Proofs.Members
import Preflight.Proofs.Retrying

/-!
# What a catalog is sent

A report reaches a catalog as the value of one operation of a patch, inside the
body of a request. On the way it is a value and a text once each, so two things
have to be read back: the text of the patch, and the report out of the value that
stands at its place in the patch (`CarriesReport`).

A recording may take many requests, for it is tried again and redirected. Every
try starts with the same request, and whatever a redirection makes of it either
has its body or none. So all bodies that leave are the one text (`OnlyBody`), and
a recording that ends well has sent it at least once.

## Main results

* `CatalogStore.carriesReport_patch` — the patch of a report carries it.
* `CatalogStore.shows_record` — the requests of a recording.
-/

namespace Preflight

/-! ## The patch -/

/-- The text is a patch of two operations: one adds a response from which the report is read back
to the millisecond, the other adds the status of a workflow that ran to its end. -/
def CarriesReport (text : String) (report : Report) : Prop :=
  ∃ response,
    Json.parse text = .ok (.array
      [.object [("op", .string "add"), ("path", .string "/response"), ("value", response)],
       .object
        [("op", .string "add"), ("path", .string "/status"), ("value", .string "Successful")]]) ∧
    Report.decode (Doc.ofJson response) = .ok report.wholeMillis

theorem Json.parse_compact {v : Json} (hv : v.InWords) : Json.parse v.compact = .ok v := by
  obtain ⟨root, hparse, hvalue⟩ := (spells_compactChars hv).parse blank_nil blank_nil
  rw [List.nil_append, List.append_nil] at hparse
  simp only [parse, compact, hparse, hvalue]

namespace CatalogStore

theorem inWords_addOperation (path : String) {value : Json} (h : value.InWords) :
    (addOperation path value).InWords := by
  apply Json.InWords.object
  simp only [List.forall_mem_cons, List.not_mem_nil, false_implies, implies_true, and_true]
  exact ⟨.string _, .string _, h⟩

/-- **The patch of a report carries it.** -/
theorem carriesReport_patch {report : Report} (h : report.InWords) :
    CarriesReport (patch report).compact report := by
  have hwords : (patch report).InWords := by
    apply Json.InWords.array
    simp only [List.forall_mem_cons, List.not_mem_nil, false_implies, implies_true, and_true]
    exact ⟨inWords_addOperation _ h.toJson.sorted, inWords_addOperation _ (.string _)⟩
  have hresponse : Report.decode (Doc.ofJson report.toJson.sorted) = .ok report.wholeMillis :=
    report.reads_sorted _ (Doc.toJson_ofJson report.toJson.sorted)
  exact ⟨report.toJson.sorted, Json.parse_compact hwords, hresponse⟩

end CatalogStore

/-! ## What servers are shown -/

variable {α β : Type}

/-- The act shows the servers more than they have seen, and `P` holds of its value and what is
added. -/
def Act.Shows (P : α → List WebSight → Prop) (act : Act Web α) : Prop :=
  ∀ web, ∃ sent, (act.run web).world.seen = web.seen ++ sent ∧ P (act.run web).value sent

namespace Act

variable {P : α → List WebSight → Prop} {Q : β → List WebSight → Prop}

theorem shows_pure {a : α} (h : P a []) : Shows P (pure a) := by
  intro web
  exact ⟨[], (List.append_nil _).symm, h⟩

theorem shows_note (event : Event) : Shows (fun _ sent => sent = []) (note event) := by
  intro web
  exact ⟨[], (List.append_nil _).symm, rfl⟩

theorem Shows.bind {act : Act Web α} {next : α → Act Web β} (h : Shows P act)
    (hnext : ∀ a sent, P a sent → Shows (fun b more => Q b (sent ++ more)) (next a)) :
    Shows Q (act >>= next) := by
  intro web
  obtain ⟨sent, hsent, hP⟩ := h web
  obtain ⟨more, hmore, hQ⟩ := hnext _ sent hP (act.run web).world
  refine ⟨sent ++ more, ?_, hQ⟩
  rw [run_bind, hmore, hsent, List.append_assoc]

end Act

/-- The requests among the sights have a text for their body, or none. -/
def OnlyBody (text : String) (sent : List WebSight) : Prop :=
  ∀ request, .request request ∈ sent → request.body = none ∨ request.body = some text

namespace OnlyBody

variable {text : String} {sent more : List WebSight}

theorem nil : OnlyBody text [] := by
  intro request h
  cases h

theorem append (h : OnlyBody text sent) (hmore : OnlyBody text more) :
    OnlyBody text (sent ++ more) := by
  intro request hrequest
  rcases List.mem_append.mp hrequest with hrequest | hrequest
  · exact h request hrequest
  · exact hmore request hrequest

end OnlyBody

namespace Web

variable {text : String} {request : Request}

theorem shows_turn (hbody : request.body = none ∨ request.body = some text) :
    Act.Shows (fun turn sent => OnlyBody text sent ∧ (turn ≠ .refused → .request request ∈ sent))
      (turn request) := by
  intro web
  refine ⟨_, rfl, ?_, ?_⟩
  · intro seen hseen
    have hsight := List.mem_singleton.mp hseen
    split at hsight
    · cases hsight
    · cases hsight
      exact hbody
  · intro hturn
    rw [List.mem_singleton]
    split
    · rename_i hrefused
      exact absurd hrefused hturn
    · rfl

/-- A redirection drops the body of a request or leaves it. -/
theorem body_of_redirected? {reply : Reply} {next : Request}
    (h : redirected? request reply = some next) :
    next.body = none ∨ next.body = request.body := by
  unfold redirected? at h
  obtain ⟨location, _, h⟩ := Option.bind_eq_some_iff.mp h
  obtain ⟨url, _, h⟩ := Option.bind_eq_some_iff.mp h
  dsimp only at h
  split at h
  · cases h
    exact .inl rfl
  · split at h
    · cases h
      exact .inr rfl
    · cases h

/-- Whoever follows redirections sends the request itself first, if anything at all. -/
theorem shows_sendFollowing {request : Request} (start : Url) (left : Nat)
    (hbody : request.body = none ∨ request.body = some text) :
    Act.Shows (fun answer sent => OnlyBody text sent ∧
        ∀ reply, answer = .ok reply → .request request ∈ sent)
      (sendFollowing start left request) := by
  rw [sendFollowing.eq_def]
  refine (shows_turn hbody).bind fun turn sent hturn => ?_
  cases turn with
  | refused => exact Act.shows_pure ⟨by simpa using hturn.1, by simp⟩
  | garbled => exact Act.shows_pure ⟨by simpa using hturn.1, by simp⟩
  | reply reply =>
      have hsent : .request request ∈ sent := hturn.2 (by simp)
      dsimp only
      cases hredirected : redirected? request reply with
      | none => exact Act.shows_pure ⟨by simpa using hturn.1, by simpa using hsent⟩
      | some next =>
          have hnext : next.body = none ∨ next.body = some text := by
            rcases body_of_redirected? hredirected with h | h
            · exact .inl h
            · rw [h]
              exact hbody
          cases left with
          | zero => exact Act.shows_pure ⟨by simpa using hturn.1, by simp⟩
          | succ left =>
              dsimp only
              split
              · intro web
                obtain ⟨more, hmore, honly, _⟩ := shows_sendFollowing start left hnext web
                exact ⟨more, hmore, hturn.1.append honly,
                  fun _ _ => List.mem_append_left more hsent⟩
              · exact Act.shows_pure ⟨by simpa using hturn.1, by simp⟩

end Web

namespace CatalogStore

variable {text : String} {request : Request}

theorem shows_tryOnce (hbody : request.body = none ∨ request.body = some text) :
    Act.Shows (fun answer sent => OnlyBody text sent ∧ (answer = .ok () → .request request ∈ sent))
      (tryOnce request) := by
  refine (Web.shows_sendFollowing _ Web.redirectionLimit hbody).bind fun answer sent hsent => ?_
  cases answer with
  | error fault => exact Act.shows_pure ⟨by simpa using hsent.1, by simp⟩
  | ok reply =>
      refine Act.shows_pure ⟨by simpa using hsent.1, fun _ => ?_⟩
      simpa using hsent.2 reply rfl

theorem shows_persist (more : Nat) (hbody : request.body = none ∨ request.body = some text) :
    Act.Shows (fun answer sent => OnlyBody text sent ∧ (answer = .ok () → .request request ∈ sent))
      (persist request more) := by
  induction more with
  | zero =>
      rw [persist]
      refine (shows_tryOnce hbody).bind fun answer sent hsent => ?_
      cases answer with
      | ok _ => exact Act.shows_pure ⟨by simpa using hsent.1, by simpa using hsent.2⟩
      | error setback => exact Act.shows_pure ⟨by simpa using hsent.1, by simp⟩
  | succ more ih =>
      rw [persist]
      refine (shows_tryOnce hbody).bind fun answer sent hsent => ?_
      cases answer with
      | ok _ => exact Act.shows_pure ⟨by simpa using hsent.1, by simpa using hsent.2⟩
      | error setback =>
          dsimp only
          split
          · intro web
            obtain ⟨later, hlater, honly, hok⟩ := ih web
            exact ⟨later, hlater, hsent.1.append honly,
              fun h => List.mem_append_right sent (hok h)⟩
          · exact Act.shows_pure ⟨by simpa using hsent.1, by simp⟩

/-- **The requests of a recording** have the patch for their body, or none; and the catalog was
asked to patch the workflow by it if the recording ends well. -/
theorem shows_record (store : CatalogStore) (workflow : Workflow) (report : Report) :
    Act.Shows (fun answer sent => OnlyBody (patch report).compact sent ∧ (answer = .ok () →
        ∃ request, .request request ∈ sent ∧ request.method = "PATCH" ∧
          request.body = some (patch report).compact))
      (store.record workflow report) := by
  refine (Act.shows_note _).bind fun _ sent hsent => ?_
  subst hsent
  cases hrequest : store.request workflow report with
  | error reason => exact Act.shows_pure ⟨.nil, by simp⟩
  | ok request =>
      obtain ⟨url, _, rfl⟩ := request_eq_ok_iff.mp hrequest
      have hbody : (store.patchRequest url report).body = some (patch report).compact := rfl
      intro web
      obtain ⟨sent, hsent, honly, hok⟩ := shows_persist (store.patience - 1) (.inr hbody) web
      exact ⟨sent, hsent, honly, fun h => ⟨store.patchRequest url report, hok h, rfl, hbody⟩⟩

end CatalogStore

end Preflight
