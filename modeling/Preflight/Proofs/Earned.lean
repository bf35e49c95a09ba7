import Preflight.Proofs.Granted
import Preflight.Proofs.Using

/-!
# What the success of an operation takes

An operation on a graph is a talk, before which a session may have to be opened
anew. What its success takes is what the talk takes, and what the verification of
the new session took. Nothing else is in the account of the peer, so it can also be
read the other way: if anything in the account is not what the peer was asked for,
the operation has failed (`Earned`). The one exception is a link that was kept and
could not be reset, for the pool has a remedy for that.

## Main results

* `GraphSettings.opened_of_openPool` — the sights of a session that was opened.
* `GraphConnection.success_is_earned` — those of connecting, pinging and reading.
-/

namespace Preflight

variable {α ε : Type}

/-! ## Sessions -/

namespace GraphSettings

/-- A session was opened: there was a login on a new link, and it was shown on it that statements
can be run. -/
inductive Opened (settings : GraphSettings) (net : BoltNet) : List BoltSight → Prop
  | intro {endpoint : BoltEndpoint} {login verification : List BoltSight}
      (hendpoint : settings.endpoint net.files = .ok endpoint)
      (hlogin : BoltPool.LoggedIn ⟨endpoint, settings.username, settings.password, none⟩
        net.links login)
      (hverified : BoltPool.Verified net.links verification) :
      Opened settings net (login ++ verification)

variable {settings : GraphSettings} {net : BoltNet}

theorem opened_of_openPool {pool : BoltPool} (h : (settings.openPool.run net).value = .ok pool) :
    ∃ sights, (settings.openPool.run net).world.seen = net.seen ++ sights ∧
      settings.Opened net sights := by
  cases hendpoint : settings.endpoint net.files with
  | error failure =>
      rw [run_openPool_of_error hendpoint] at h
      cases h
  | ok endpoint =>
      obtain ⟨hvalue, hworld⟩ := run_openPool hendpoint
      rw [hworld]
      rw [hvalue] at h
      obtain ⟨_, hverify, -⟩ := exists_of_map_eq_ok h
      obtain ⟨sights, hseen, link, opening, exchange, rfl, hready, hverified⟩ :=
        BoltPool.earns_verify _ () (eq_ok_of_mapError_eq_ok hverify)
      refine ⟨opening ++ exchange, hseen, ?_⟩
      cases hready with
      | kept hlink => cases hlink
      | @opened refused login hrefused hlogin =>
          -- The pool is empty, so there was no link to be reset.
          have hnone : refused = [] := by
            cases refused with
            | nil => rfl
            | cons sight _ =>
                obtain ⟨link, hlink, -⟩ := hrefused sight List.mem_cons_self
                cases hlink
          subst hnone
          exact .intro hendpoint hlogin hverified

end GraphSettings

/-! ## Sights that mean no trouble -/

namespace BoltSight

/-- The peer did what was asked of it. -/
def IsFavourable : BoltSight → Prop
  | opening _ (.version number) => BoltGreeting.speaks number = true
  | opening _ (.secured (.version number)) => BoltGreeting.speaks number = true
  | opening .. => False
  | request _ _ (.success ..) => True
  | request .. => False

/-- A link was to be reset. -/
def IsReset : BoltSight → Prop
  | request _ .reset _ => True
  | _ => False

end BoltSight

/-- Every sight is of something that the peer did as it was asked, or of a link to be reset. -/
def Untroubled (sights : List BoltSight) : Prop :=
  ∀ sight ∈ sights, sight.IsFavourable ∨ sight.IsReset

namespace Untroubled

theorem nil : Untroubled [] := nofun

theorem append {sights later : List BoltSight} (h : Untroubled sights) (hlater : Untroubled later) :
    Untroubled (sights ++ later) := by
  intro sight hsight
  rcases List.mem_append.mp hsight with hsight | hsight
  · exact h sight hsight
  · exact hlater sight hsight

theorem cons {sight : BoltSight} {sights : List BoltSight} (h : sight.IsFavourable)
    (hsights : Untroubled sights) : Untroubled (sight :: sights) :=
  List.forall_mem_cons.mpr ⟨.inl h, hsights⟩

end Untroubled

namespace BoltPool

theorem Granted.untroubled {link : Nat} {requests : List BoltRequest} {sights : List BoltSight}
    (h : Granted link requests sights) : Untroubled sights := by
  unfold Granted at h
  induction h with
  | nil => exact .nil
  | cons hgranted _ ih =>
      obtain ⟨rows, more, rfl⟩ := hgranted
      exact ih.cons trivial

theorem PulledAll.untroubled {link rows : Nat} {sights : List BoltSight}
    (h : PulledAll link rows sights) : Untroubled sights := by
  induction h with
  | last rows => exact Untroubled.nil.cons trivial
  | more rows _ ih => exact ih.cons trivial

theorem Counted.untroubled {statement : String} {link rows : Nat} {sights : List BoltSight}
    (h : Counted statement link rows sights) : Untroubled sights := by
  cases h with
  | intro hopening hpulls hclosing =>
      exact hopening.untroubled.append (hpulls.untroubled.append hclosing.untroubled)

theorem LoggedIn.untroubled {pool : BoltPool} {link : Nat} {sights : List BoltSight}
    (h : LoggedIn pool link sights) : Untroubled sights := by
  cases h with
  | @intro greeting version login hchosen hversion hlogin =>
      apply hlogin.untroubled.cons
      unfold BoltGreeting.chosen? at hchosen
      split at hchosen <;> cases hchosen <;> exact hversion

theorem MadeReady.untroubled {pool : BoltPool} {links link : Nat} {sights : List BoltSight}
    (h : MadeReady pool links link sights) : Untroubled sights := by
  cases h with
  | kept hlink hreset => exact hreset.untroubled
  | @opened refused login hrefused hlogin =>
      have hresets : Untroubled refused := by
        intro sight hsight
        obtain ⟨link, -, reply, rfl⟩ := hrefused sight hsight
        exact .inr trivial
      exact hresets.append hlogin.untroubled

theorem InTransaction.untroubled {world : BoltPool × BoltNet}
    {exchanged : Nat → List BoltSight → Prop} {sights : List BoltSight}
    (h : InTransaction world exchanged sights)
    (hexchanged : ∀ link exchange, exchanged link exchange → Untroubled exchange) :
    Untroubled sights := by
  obtain ⟨link, opening, exchange, rfl, hready, hexchange⟩ := h
  exact hready.untroubled.append (hexchanged link exchange hexchange)

end BoltPool

theorem GraphSettings.Opened.untroubled {settings : GraphSettings} {net : BoltNet}
    {sights : List BoltSight} (h : settings.Opened net sights) : Untroubled sights := by
  cases h with
  | intro hendpoint hlogin hverified => exact hlogin.untroubled.append hverified.untroubled

/-! ## Earned results -/

/-- A result that is a success only if `P` holds of the sights that were added before it, and that
is an error if any of them is of something else than the peer was asked for. -/
structure Earned (before after : BoltNet) (result : Except ε α)
    (P : α → List BoltSight → Prop) : Prop where
  of_ok : ∀ a, result = .ok a → ∃ sights, after.seen = before.seen ++ sights ∧ P a sights
  error_of_mem : ∀ sights, after.seen = before.seen ++ sights → ∀ sight ∈ sights,
    ¬sight.IsFavourable → ¬sight.IsReset → ∃ e, result = .error e

theorem Earned.intro {before after : BoltNet} {result : Except ε α}
    {P : α → List BoltSight → Prop} (hP : ∀ a sights, P a sights → Untroubled sights)
    (hok : ∀ a, result = .ok a → ∃ sights, after.seen = before.seen ++ sights ∧ P a sights) :
    Earned before after result P where
  of_ok := hok
  error_of_mem := by
    intro sights hseen sight hsight hunfavourable hnoReset
    cases result with
    | error e => exact ⟨e, rfl⟩
    | ok a =>
        obtain ⟨earned, hearned, hPa⟩ := hok a rfl
        obtain rfl : earned = sights := List.append_cancel_left (hearned.symm.trans hseen)
        rcases hP a earned hPa sight hsight with hfavourable | hreset
        · exact absurd hfavourable hunfavourable
        · exact absurd hreset hnoReset

namespace GraphConnection

variable {connection : GraphConnection} {net : BoltNet}

theorem opened_of_openSession {settings : GraphSettings} {session : GraphSession}
    (h : ((openSession settings).run net).value = .ok session) :
    ∃ sights, ((openSession settings).run net).world.seen = net.seen ++ sights ∧
      settings.Opened net sights := by
  obtain ⟨hvalue, hworld⟩ := run_openSession settings net
  rw [hvalue] at h
  rw [hworld]
  obtain ⟨pool, hpool, -⟩ := exists_of_map_eq_ok h
  exact GraphSettings.opened_of_openPool hpool

/-- A session is fit for use as it is, or else a new one was opened. -/
theorem seen_of_refresh_ok (h : (refresh.run (connection, net)).value = .ok ()) :
    ∃ renewal, (refresh.run (connection, net)).world.2.seen = net.seen ++ renewal ∧
      (renewal = [] ∨ connection.settings.Opened net renewal) := by
  by_cases hexpired : connection.isExpired net.nowMs = true
  · obtain ⟨hvalue, hworld⟩ := refresh_of_expired hexpired
    rw [hvalue] at h
    rw [hworld]
    obtain ⟨session, hsession, -⟩ := exists_of_map_eq_ok h
    obtain ⟨renewal, hseen, hopened⟩ := opened_of_openSession hsession
    exact ⟨renewal, hseen, .inr hopened⟩
  · rw [run_refresh_of_young (eq_false_of_ne_true hexpired)]
    exact ⟨[], (List.append_nil _).symm, .inl rfl⟩

/-- A connection was used for a transaction: its session was as it should be or a new one was
opened, and then the exchange took place on a link that was made ready. -/
def UsedFor (connection : GraphConnection) (net : BoltNet)
    (exchanged : Nat → List BoltSight → Prop) (sights : List BoltSight) : Prop :=
  let refreshed := (refresh.run (connection, net)).world
  ∃ renewal transaction, sights = renewal ++ transaction ∧
    (renewal = [] ∨ connection.settings.Opened net renewal) ∧
    BoltPool.InTransaction (refreshed.1.session.pool, refreshed.2) exchanged transaction

/-- What a talk earns is earned by a use of a connection for this talk. -/
theorem Uses.earned {act : Act (GraphConnection × BoltNet) (Except ε α)}
    {wanted : Talk α} {refused : ConnectionFailure → ε} {failed : BoltFault → ε}
    (h : Uses act connection net wanted refused failed) {exchanged : α → Nat → List BoltSight → Prop}
    (huntroubled : ∀ a link exchange, exchanged a link exchange → Untroubled exchange)
    (hwanted : ∀ world, wanted.Earns world fun a sights _ =>
      BoltPool.InTransaction world (exchanged a) sights) :
    Earned net (act.run (connection, net)).world.2 (act.run (connection, net)).value
      fun a => connection.UsedFor net (exchanged a) := by
  apply Earned.intro
  · rintro a _ ⟨renewal, transaction, rfl, hrenewal, htransaction⟩
    have hrest := htransaction.untroubled (huntroubled a)
    rcases hrenewal with rfl | hopened
    · exact hrest
    · exact hopened.untroubled.append hrest
  · intro a ha
    cases hrefresh : (refresh.run (connection, net)).value with
    | error failure =>
        rw [(h.of_refresh_error failure hrefresh).1] at ha
        cases ha
    | ok _ =>
        obtain ⟨hvalue, hworld⟩ := h.of_refresh_ok hrefresh
        obtain ⟨renewal, hrenewed, hrenewal⟩ := seen_of_refresh_ok hrefresh
        obtain ⟨transaction, hseen, htransaction⟩ :=
          hwanted _ a (eq_ok_of_mapError_eq_ok (hvalue.symm.trans ha))
        refine ⟨renewal ++ transaction, ?_, renewal, transaction, rfl, hrenewal, htransaction⟩
        rw [hworld, ← List.append_assoc, ← hrenewed]
        exact hseen

/-- **A success of a graph is earned**: behind it stands, on one link, a transaction in which the
peer granted every request, and rows are counted in full. Whatever else the peer did, the operation
fails; only a link that was kept may refuse to be reset, for then there is a new one. -/
theorem success_is_earned :
    (∀ settings net, Earned net ((connect settings).run net).world ((connect settings).run net).value
      fun _ => settings.Opened net) ∧
    (∀ connection net, Earned net (ping.run (connection, net)).world.2
      (ping.run (connection, net)).value
      fun _ => connection.UsedFor net BoltPool.Verified) ∧
    (∀ statement connection net, Earned net ((read statement).run (connection, net)).world.2
      ((read statement).run (connection, net)).value
      fun rows => connection.UsedFor net (BoltPool.Counted statement · rows)) := by
  refine ⟨fun settings net => ?_, fun connection net => ?_, fun statement connection net => ?_⟩
  · refine Earned.intro (fun _ _ hopened => hopened.untroubled) fun connection hconnection => ?_
    obtain ⟨hvalue, hworld⟩ := connect_spec settings net
    obtain ⟨session, hsession, -⟩ := exists_of_map_eq_ok (hvalue.symm.trans hconnection)
    rw [hworld]
    exact opened_of_openSession hsession
  · exact (uses_ping connection net).earned (fun _ _ _ hverified => hverified.untroubled)
      BoltPool.earns_verify
  · exact (uses_read statement connection net).earned (fun _ _ _ hcounted => hcounted.untroubled)
      (BoltPool.earns_rowCount statement)

/-- A link that cannot be reset is left for a new one, on which the rows come in two batches. -/
theorem success_is_earned_in_batches :
    let settings : GraphSettings :=
      { hostPort := "db:7687", username := "neo4j", password := ⟨"hunter2"⟩ }
    let peer : BoltPeer :=
      { host := "db", port := 7687
        replies := [(.reset, .failure none "busy"), (.pull, .success 200 true),
          (.pull, .success 3 false)] }
    let pool : BoltPool := ⟨⟨"db", 7687, false, true⟩, "neo4j", ⟨"hunter2"⟩, some ⟨0, false⟩⟩
    let connection : GraphConnection := ⟨settings, ⟨pool, 0⟩⟩
    let net : BoltNet := { peer := some peer, links := 1 }
    let counting := (read "MATCH (n) RETURN n").run (connection, net)
    counting.value = .ok 203 ∧ ∃ sights, counting.world.2.seen = sights ∧
      connection.UsedFor net (BoltPool.Counted "MATCH (n) RETURN n" · 203) sights := by
  intro settings peer pool connection net counting
  have hvalue : counting.value = .ok 203 := by decide +kernel
  have hearned := success_is_earned.2.2 "MATCH (n) RETURN n" connection net
  exact ⟨hvalue, hearned.of_ok 203 hvalue⟩

/-- A session that is to be secured is opened with a peer that the client trusts, and with no
other. -/
example :
    let settings : GraphSettings :=
      { hostPort := "db:7687", username := "neo4j", password := ⟨"hunter2"⟩, encrypted := true,
        validates := true }
    let opens (greeting : BoltGreeting) : Bool :=
      let peer : BoltPeer := { host := "db", port := 7687, greetings := [greeting] }
      ((connect settings).run { peer := some peer }).value.isOk
    opens (.secured (.version 260)) = true ∧ opens (.version 260) = false := by
  decide +kernel

end GraphConnection

end Preflight
