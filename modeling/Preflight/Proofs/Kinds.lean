import Preflight.Bolt.Fault
import Preflight.Proofs.Casing

/-!
# What decides about the kind of a failure

A message has fragments of several kinds in it as soon as one failure is reported in
the words of another. The table of fragments ranks the kinds for this case, and the
first kind with a fragment in the message wins. A context can thus add a fragment of a
higher kind, and it cannot take one away: where a table finds all that it found before,
it stops at the same row or at an earlier one (`idxOf_firstMatch_le`, by induction on
the table). What is looked for is written in small ASCII letters, so neither the case of
ASCII letters in the message nor the tables of Unicode make a difference.

No row of the table is about the settings, so whatever is classified by its text alone
never blames them. The errors of a server that are about security are not classified by
their text: there the code decides.

## Main results

* `context_never_lowers_priority` — the kind of a message and of one that contains it.
* `kind_of_security_by_code` — the kinds of the faults of a link and of a server.
-/

namespace Preflight

namespace FailureKind

variable {text text' : List Char} {table : List (FailureKind × List String)}

/-! ## The first row that matches -/

/-- The kinds that a message may tell, the one of highest priority first. -/
def byPriority : List FailureKind :=
  [accessDenied, authentication, tls, timeout, connectivity, query, other]

/-- The place of a kind among those that a message may tell. -/
def rank (kind : FailureKind) : Nat := byPriority.idxOf kind

theorem byPriority_eq : byPriority = fragments.map Prod.fst ++ [other] := rfl

theorem firstMatch_mem (text : List Char) (table : List (FailureKind × List String)) :
    firstMatch text table ∈ table.map Prod.fst ++ [other] := by
  rw [List.mem_append, List.mem_singleton]
  exact (firstMatch_mem_or_other text table).symm

/-- What one text has of a row, a text with as many fragments has as well. -/
theorem any_contains_mono {pieces : List String}
    (h : ∀ piece ∈ pieces,
      Text.contains piece.toList text = true → Text.contains piece.toList text' = true)
    (hany : (pieces.any fun piece => Text.contains piece.toList text) = true) :
    (pieces.any fun piece => Text.contains piece.toList text') = true := by
  rw [List.any_eq_true] at hany ⊢
  obtain ⟨piece, hpiece, hfind⟩ := hany
  exact ⟨piece, hpiece, h piece hpiece hfind⟩

theorem firstMatch_congr
    (h : ∀ row ∈ table, ∀ piece ∈ row.2,
      (Text.contains piece.toList text = true ↔ Text.contains piece.toList text' = true)) :
    firstMatch text table = firstMatch text' table := by
  induction table with
  | nil => rfl
  | cons row rest ih =>
      obtain ⟨kind, pieces⟩ := row
      have hhere : (pieces.any fun piece => Text.contains piece.toList text) =
          pieces.any fun piece => Text.contains piece.toList text' := by
        apply Bool.eq_iff_iff.mpr
        have hrow := h _ List.mem_cons_self
        exact ⟨any_contains_mono fun piece hpiece => (hrow piece hpiece).mp,
          any_contains_mono fun piece hpiece => (hrow piece hpiece).mpr⟩
      rw [firstMatch, firstMatch, hhere, ih fun row hrow => h row (List.mem_cons_of_mem _ hrow)]

/-- **A text with more fragments is matched no later.** -/
theorem idxOf_firstMatch_le (hnodup : (table.map Prod.fst ++ [other]).Nodup)
    (h : ∀ row ∈ table, ∀ piece ∈ row.2,
      Text.contains piece.toList text = true → Text.contains piece.toList text' = true) :
    (table.map Prod.fst ++ [other]).idxOf (firstMatch text' table) ≤
      (table.map Prod.fst ++ [other]).idxOf (firstMatch text table) := by
  induction table with
  | nil => exact Nat.le_refl _
  | cons row rest ih =>
      obtain ⟨kind, pieces⟩ := row
      obtain ⟨hnew, hrest⟩ := List.nodup_cons.mp hnodup
      show (kind :: (rest.map Prod.fst ++ [other])).idxOf (firstMatch text' ((kind, pieces) :: rest))
        ≤ (kind :: (rest.map Prod.fst ++ [other])).idxOf (firstMatch text ((kind, pieces) :: rest))
      rw [firstMatch, firstMatch]
      by_cases hthere : (pieces.any fun piece => Text.contains piece.toList text') = true
      · rw [if_pos hthere, List.idxOf_cons_self]
        exact Nat.zero_le _
      · have hhere : ¬ (pieces.any fun piece => Text.contains piece.toList text) = true :=
          fun hhere => hthere (any_contains_mono (h _ List.mem_cons_self) hhere)
        -- The kind of this row does not come again, so no later row has its place.
        have hlater : ∀ text, kind ≠ firstMatch text rest := fun text heq =>
          hnew (heq ▸ firstMatch_mem text rest)
        rw [if_neg hthere, if_neg hhere, List.idxOf_cons_ne _ (hlater text'),
          List.idxOf_cons_ne _ (hlater text)]
        exact Nat.succ_le_succ (ih hrest fun row hrow => h row (List.mem_cons_of_mem _ hrow))

/-! ## Messages -/

/-- Whatever is looked for in a message is a fragment of ASCII characters. -/
theorem isFragment_of_mem_fragments :
    ∀ row ∈ fragments, ∀ piece ∈ row.2, Text.IsFragment piece.toList := by
  have hall : (fragments.all fun row => row.2.all fun piece =>
      !piece.toList.isEmpty && piece.toList.all fun c => decide (c.toNat < 128)) = true := by
    decide +kernel
  intro row hrow piece hpiece
  have hboth := List.all_eq_true.mp (List.all_eq_true.mp hall row hrow) piece hpiece
  rw [Bool.and_eq_true, Bool.not_eq_true', List.isEmpty_eq_false_iff, List.all_eq_true] at hboth
  obtain ⟨hsome, hascii⟩ := hboth
  exact ⟨hsome, fun c hc => Nat.not_le_of_lt (of_decide_eq_true (hascii c hc))⟩

/-- The kind of a message by another table of lower case. -/
def ofMessageIn (casing : Text.LowerCasing) (message : String) : FailureKind :=
  firstMatch (casing.lower message.toList) fragments

theorem ofMessageIn_eq (casing : Text.LowerCasing) (message : String) :
    ofMessageIn casing message = ofMessage message := by
  apply firstMatch_congr
  intro row hrow piece hpiece
  rw [Text.contains_eq_true_iff, Text.contains_eq_true_iff]
  exact casing.infix_lower_iff (isFragment_of_mem_fragments row hrow piece hpiece) message.toList

theorem rank_ofMessage_append_le (before message after : String) :
    (ofMessage (before ++ message ++ after)).rank ≤ (ofMessage message).rank := by
  unfold rank ofMessage
  rw [byPriority_eq]
  apply idxOf_firstMatch_le (by decide)
  intro row _ piece _ hfind
  rw [Text.contains_eq_true_iff] at hfind ⊢
  have hlower : Text.foldCase (before ++ message ++ after).toList =
      Text.foldCase before.toList ++ Text.foldCase message.toList ++ Text.foldCase after.toList := by
    rw [String.toList_append, String.toList_append, Text.foldCase_append, Text.foldCase_append]
  rw [hlower]
  exact hfind.trans ⟨_, _, rfl⟩

/-- **A context never lowers the priority** of what a message tells, and neither the case of ASCII
letters nor the choice of a table of lower case makes a difference to it. -/
theorem context_never_lowers_priority :
    (∀ before message after : String,
      (ofMessage (before ++ message ++ after)).rank ≤ (ofMessage message).rank) ∧
    (∀ message other : String,
      Text.asciiLower message.toList = Text.asciiLower other.toList →
        ofMessage message = ofMessage other) ∧
    (∀ message, ofMessage message ∈ byPriority) ∧
    ∀ casing message, ofMessageIn casing message = ofMessage message := by
  refine ⟨rank_ofMessage_append_le, ?_, ?_, ofMessageIn_eq⟩
  · intro message other hcase
    unfold ofMessage
    rw [Text.foldCase_eq_of_asciiLower_eq hcase]
  · intro message
    rw [byPriority_eq]
    exact firstMatch_mem _ fragments

/-- A context can raise the priority. -/
example : ofMessage "bad STATEMENT" = .query ∧
    ofMessage "not allowed: bad STATEMENT" = .accessDenied := by
  decide +kernel

end FailureKind

/-! ## Errors of a server -/

namespace ServerError

theorem textKind_eq (text : String) :
    textKind text =
      if FailureKind.ofMessage text = .other then .query else FailureKind.ofMessage text := by
  unfold textKind
  cases FailureKind.ofMessage text <;> rfl

theorem textKind_ne (text : String) :
    textKind text ≠ .other ∧ textKind text ≠ .invalidConfig := by
  rw [textKind_eq]
  split
  · decide
  · exact ⟨‹_›, FailureKind.ofMessage_ne_invalidConfig text⟩

theorem securityKind_eq (reason : SecurityClass) :
    securityKind reason =
      if reason ∈ [.authentication, .authorizationExpired, .tokenExpired] then .authentication
      else .accessDenied := by
  cases reason <;> rfl

theorem kind_ne_invalidConfig (error : ServerError) : error.kind ≠ .invalidConfig := by
  by_cases hsecurity : ∃ reason, ServerErrorClass.ofCode error.code = .client (.security reason)
  · obtain ⟨reason, hreason⟩ := hsecurity
    rw [kind_of_security hreason]
    cases reason <;> decide
  · rw [kind_of_not_security fun reason hreason => hsecurity ⟨reason, hreason⟩]
    exact (textKind_ne error.text).2

end ServerError

/-! ## Faults -/

namespace BoltFault

theorem kind_link {fault : LinkFault} (h : fault ≠ .strayMessage) :
    (link fault).kind = (FailureKind.ofMessage fault.message).orConnectivity := by
  cases fault with
  | strayMessage => exact absurd rfl h
  | _ => rfl

/-- The errors of a server are the failures with which it answers statements and the requests to
discard their rows. -/
theorem ofAnswer_eq_server_iff {request : BoltRequestKind} {answer : Except LinkFault BoltReply}
    {error : ServerError} :
    ofAnswer request answer = .error (server error) ↔
      (request = .statement ∨ request = .discard) ∧
        ∃ code message, answer = .ok (.failure code message) ∧
          ServerError.ofFailure code message = error := by
  constructor
  · intro h
    cases answer with
    | error fault => cases request <;> cases h
    | ok reply =>
        cases reply with
        | failure code message =>
            cases request with
            | statement => exact ⟨.inl rfl, code, message, rfl, server.inj (Except.error.inj h)⟩
            | discard => exact ⟨.inr rfl, code, message, rfl, server.inj (Except.error.inj h)⟩
            | _ => cases h
        | _ => cases request <;> cases h
  · rintro ⟨rfl | rfl, code, message, rfl, rfl⟩ <;> rfl

/-- **What decides about the kind of a fault.** That of the transport is told by its text, and one
that tells nothing else is of connectivity. The error of a server is told by the code alone if the
code is about security, and else by its text, and one that tells nothing is of the statement. -/
theorem kind_of_security_by_code :
    (∀ fault : LinkFault, fault ≠ .strayMessage →
      (link fault).kind = (FailureKind.ofMessage fault.message).orConnectivity ∧
        (link fault).kind ≠ .query ∧ (link fault).kind ≠ .other ∧
        (link fault).kind ≠ .invalidConfig) ∧
    (∀ code reason, ServerErrorClass.ofCode code = .client (.security reason) → ∀ message,
      (server ⟨code, message⟩).kind =
        if reason ∈ [.authentication, .authorizationExpired, .tokenExpired] then .authentication
        else .accessDenied) ∧
    (∀ error : ServerError,
      (∀ reason, ServerErrorClass.ofCode error.code ≠ .client (.security reason)) →
        (server error).kind =
            (if FailureKind.ofMessage error.text = .other then .query
            else FailureKind.ofMessage error.text) ∧
          (server error).kind ≠ .other ∧ (server error).kind ≠ .invalidConfig) ∧
    ∀ request answer error, ofAnswer request answer = .error (server error) ↔
      (request = .statement ∨ request = .discard) ∧
        ∃ code message, answer = .ok (.failure code message) ∧
          ServerError.ofFailure code message = error := by
  refine ⟨fun fault hfault => ?_, fun code reason hreason message => ?_, fun error herror => ?_,
    fun request answer error => ofAnswer_eq_server_iff⟩
  · rw [kind_link hfault]
    exact ⟨rfl, LinkFault.transportKind_ne fault.message⟩
  · have hkind : (server ⟨code, message⟩).kind = ServerError.securityKind reason :=
      ServerError.kind_of_security hreason
    exact hkind.trans (ServerError.securityKind_eq reason)
  · have hkind : (server error).kind = ServerError.textKind error.text :=
      ServerError.kind_of_not_security herror
    rw [hkind]
    exact ⟨ServerError.textKind_eq error.text, ServerError.textKind_ne error.text⟩

/-- The code decides, though the message speaks of something that ranks higher. -/
example : (server ⟨"Neo.ClientError.Security.TokenExpired", "access denied"⟩).kind =
    .authentication := by
  decide +kernel

end BoltFault

end Preflight
