import Mathlib.Data.List.Forall2
import Preflight.Graph

/-!
# What the success of a talk takes

A success is a single word for a whole exchange: a transaction was started, a
statement was accepted, all rows came and the transaction was rolled back. The
word is worth as much as the exchange behind it, which happened on the other side,
and what is known of it there is the account of the peer. So a success is put
beside the sights that it added to this account (`Talk.Earns`).

A talk goes on only when what it asked for was granted. A success therefore has
added the granted requests of its parts, one after the other, and all of them on
one link, since a request that is granted leaves the pool as it was (`EarnsOn`).
The only request that may be refused on the way to a success is to reset a link
that was kept; this happens before the transaction, which then takes place on a
new link. How often rows are asked for is up to the peer, and the induction over
these requests is on the bound of `pullRows`.

## Main results

* `BoltPool.heard_ask` — what a request leaves behind, whatever comes of it.
* `BoltPool.earns_verify`, `BoltPool.earns_rowCount` — the sights behind the success
  of a talk.
-/

namespace Preflight

variable {α β : Type}

/-! ## Accounts of granted requests -/

namespace BoltPool

/-- Requests were granted on a link, one after the other. -/
def Granted (link : Nat) (requests : List BoltRequest) (sights : List BoltSight) : Prop :=
  List.Forall₂ (fun request sight => ∃ rows more, sight = .request link request (.success rows more))
    requests sights

/-- Rows were asked for on a link until none were left, and all of them were granted. -/
inductive PulledAll (link : Nat) : Nat → List BoltSight → Prop
  | last (rows : Nat) : PulledAll link rows [.request link (.pull fetchSize) (.success rows false)]
  | more (rows : Nat) {later : Nat} {sights : List BoltSight} (h : PulledAll link later sights) :
      PulledAll link (rows + later)
        (.request link (.pull fetchSize) (.success rows true) :: sights)

/-- A link was opened, secured if it has to be, with a version that the client speaks; and the
login was granted. -/
inductive LoggedIn (pool : BoltPool) (link : Nat) : List BoltSight → Prop
  | intro {greeting : BoltGreeting} {version : Nat} {login : List BoltSight}
      (hchosen : greeting.chosen? pool.endpoint.secured = some version)
      (hversion : BoltGreeting.speaks version = true)
      (hlogin : Granted link [.hello pool.user pool.password.value pool.endpoint.routing] login) :
      LoggedIn pool link (.opening link greeting :: login)

/-- The link that a pool keeps has no part in a login on another one. -/
theorem LoggedIn.of_pool_eq {pool pool' : BoltPool} {link : Nat} {sights : List BoltSight}
    (hpool : { pool with link := none } = { pool' with link := none })
    (h : LoggedIn pool link sights) : LoggedIn pool' link sights := by
  obtain ⟨endpoint, user, password, kept⟩ := pool
  obtain ⟨endpoint', user', password', kept'⟩ := pool'
  cases hpool
  cases h with
  | intro hchosen hversion hlogin => exact .intro hchosen hversion hlogin

/-- A link is ready for a transaction: it was kept and could be reset, or else it is a new one. -/
inductive MadeReady (pool : BoltPool) (links : Nat) : Nat → List BoltSight → Prop
  | kept {link : BoltLink} {sights : List BoltSight} (hlink : pool.link = some link)
      (hreset : Granted link.number [.reset] sights) : MadeReady pool links link.number sights
  | opened {refused sights : List BoltSight}
      (hrefused : ∀ sight ∈ refused, ∃ link ∈ pool.link, ∃ reply,
        sight = .request link.number .reset reply)
      (hlogin : LoggedIn pool links sights) : MadeReady pool links links (refused ++ sights)

/-- It was shown on a link that statements can be run. -/
def Verified (link : Nat) (sights : List BoltSight) : Prop :=
  Granted link [.start database, .statement probeStatement database, .discard, .rollback] sights

/-- A statement was run on a link, and all its rows were pulled. -/
inductive Counted (statement : String) (link rows : Nat) : List BoltSight → Prop
  | intro {opening pulls closing : List BoltSight}
      (hopening : Granted link [.start database, .statement statement database] opening)
      (hpulls : PulledAll link rows pulls) (hclosing : Granted link [.rollback] closing) :
      Counted statement link rows (opening ++ (pulls ++ closing))

end BoltPool

/-! ## Requests -/

namespace BoltPool

/-- What a request leaves of a pool and its surroundings, whatever comes of it: the link that was
kept is the same one, and the sights added are of that request on it. -/
structure Heard (request : BoltRequest) (world after : BoltPool × BoltNet)
    (sights : List BoltSight) : Prop where
  pool : { after.1 with link := none } = { world.1 with link := none }
  number : after.1.link.map BoltLink.number = world.1.link.map BoltLink.number
  links : after.2.links = world.2.links
  nowMs : after.2.nowMs = world.2.nowMs
  seen : after.2.seen = world.2.seen ++ sights
  sights : ∀ sight ∈ sights, ∃ link ∈ world.1.link, ∃ reply,
    sight = .request link.number request reply

/-- A request either finds no link that is open or no peer, or else it is one sight and what the
peer replies decides about it. -/
theorem heard_ask (request : BoltRequest) (world : BoltPool × BoltNet) :
    ∃ sights, Heard request world ((ask request).run world).world sights ∧
      ∀ rows more, ((ask request).run world).value = .ok (.success rows more) →
        ((ask request).run world).world.1 = world.1 ∧ ∃ link, world.1.link = some link ∧
          link.closed = false ∧
            sights = [.request link.number request (.success rows more)] := by
  obtain ⟨⟨endpoint, user, password, kept⟩, net⟩ := world
  unfold ask Act.change Act.run
  dsimp only
  cases kept with
  | none => exact ⟨[], ⟨rfl, rfl, rfl, rfl, (List.append_nil _).symm, nofun⟩, nofun⟩
  | some link =>
      dsimp only
      by_cases hclosed : link.closed
      · rw [if_pos hclosed]
        exact ⟨[], ⟨rfl, rfl, rfl, rfl, (List.append_nil _).symm, nofun⟩, nofun⟩
      · rw [if_neg hclosed]
        obtain ⟨peer, seen, links, files, nowMs⟩ := net
        cases peer with
        | none => exact ⟨[], ⟨rfl, rfl, rfl, rfl, (List.append_nil _).symm, nofun⟩, nofun⟩
        | some peer =>
            unfold BoltNet.reply
            dsimp only
            generalize (peer.reply request.kind).1 = reply
            refine ⟨[.request link.number request reply], ?_⟩
            have hsight : ∀ sight ∈ [BoltSight.request link.number request reply],
                ∃ link' ∈ some link, ∃ reply', sight = .request link'.number request reply' := by
              intro sight hsight
              exact ⟨link, rfl, reply, List.mem_singleton.mp hsight⟩
            cases reply with
            | success rows more =>
                refine ⟨⟨rfl, rfl, rfl, rfl, rfl, hsight⟩, ?_⟩
                rintro _ _ ⟨⟩
                exact ⟨rfl, link, rfl, eq_false_of_ne_true hclosed, rfl⟩
            | failure code message => exact ⟨⟨rfl, rfl, rfl, rfl, rfl, hsight⟩, nofun⟩
            | record => exact ⟨⟨rfl, rfl, rfl, rfl, rfl, hsight⟩, nofun⟩
            | stray => exact ⟨⟨rfl, rfl, rfl, rfl, rfl, hsight⟩, nofun⟩
            | hangUp => exact ⟨⟨rfl, rfl, rfl, rfl, rfl, hsight⟩, nofun⟩

end BoltPool

/-! ## Talks that earn their success -/

/-- If the talk succeeds in this world, it adds sights to the account of the peer, and `Q` holds of
them, of the value and of the world that is left. -/
def Talk.Earns (world : BoltPool × BoltNet) (talk : Talk α)
    (Q : α → List BoltSight → BoltPool × BoltNet → Prop) : Prop :=
  ∀ a, (talk.run.run world).value = .ok a →
    ∃ sights, (talk.run.run world).world.2.seen = world.2.seen ++ sights ∧
      Q a sights (talk.run.run world).world

namespace Talk

variable {world : BoltPool × BoltNet}

theorem earns_pure {a : α} {Q : α → List BoltSight → BoltPool × BoltNet → Prop}
    (h : Q a [] world) : Earns world (pure a) Q := by
  rintro _ ⟨⟩
  exact ⟨[], (List.append_nil _).symm, h⟩

/-- A talk that goes on with another one adds the sights of both. -/
theorem Earns.bind {talk : Talk α} {next : α → Talk β}
    {P : α → List BoltSight → BoltPool × BoltNet → Prop}
    {Q : β → List BoltSight → BoltPool × BoltNet → Prop} (h : Earns world talk P)
    (hnext : ∀ a sights after, P a sights after →
      Earns after (next a) fun b later last => Q b (sights ++ later) last) :
    Earns world (talk >>= next) Q := by
  intro b hb
  have hrun : (talk >>= next).run.run world =
      (talk.run >>= ExceptT.bindCont next).run world := rfl
  rw [hrun, Act.run_bind] at hb ⊢
  cases hvalue : (talk.run.run world).value with
  | error fault =>
      rw [hvalue] at hb
      cases hb
  | ok a =>
      obtain ⟨sights, hseen, hP⟩ := h a hvalue
      rw [hvalue] at hb
      obtain ⟨later, hlater, hQ⟩ := hnext a sights _ hP b hb
      refine ⟨sights ++ later, ?_, hQ⟩
      rw [← List.append_assoc, ← hseen]
      exact hlater

theorem Earns.imp {talk : Talk α} {P Q : α → List BoltSight → BoltPool × BoltNet → Prop}
    (h : Earns world talk P) (hPQ : ∀ a sights after, P a sights after → Q a sights after) :
    Earns world talk Q := by
  intro a ha
  obtain ⟨sights, hseen, hP⟩ := h a ha
  exact ⟨sights, hseen, hPQ a sights _ hP⟩

end Talk

namespace BoltPool

open Talk

variable {world : BoltPool × BoltNet} {link : BoltLink}

theorem Granted.append {number : Nat} {requests more : List BoltRequest}
    {sights later : List BoltSight} (h : Granted number requests sights)
    (hmore : Granted number more later) : Granted number (requests ++ more) (sights ++ later) :=
  List.rel_append h hmore

/-- A request that is carried out is a granted one on the link that is kept, and leaves the pool as
it was. -/
theorem earns_request (request : BoltRequest) (world : BoltPool × BoltNet) :
    Earns world (BoltPool.request request) fun answer sights after =>
      after.1 = world.1 ∧ ∃ link, world.1.link = some link ∧ link.closed = false ∧
        sights = [.request link.number request (.success answer.1 answer.2)] := by
  rintro ⟨rows, more⟩ hvalue
  obtain ⟨sights, hheard, hgranted⟩ := heard_ask request world
  have hanswer : ((ask request).run world).value = .ok (.success rows more) :=
    BoltFault.ofAnswer_eq_ok_iff.mp hvalue
  obtain ⟨hpool, hsights⟩ := hgranted rows more hanswer
  exact ⟨sights, hheard.seen, hpool, hsights⟩

/-! ## One link -/

/-- On the link that is kept, a success of the talk adds sights of which `P` holds, and the pool
stays as it is. -/
def EarnsOn (link : BoltLink) (talk : Talk α) (P : α → List BoltSight → Prop) : Prop :=
  ∀ world : BoltPool × BoltNet, world.1.link = some link →
    Earns world talk fun a sights after => after.1 = world.1 ∧ P a sights

theorem earnsOn_pure {a : α} {P : α → List BoltSight → Prop} (h : P a []) :
    EarnsOn link (pure a) P :=
  fun _ _ => earns_pure ⟨rfl, h⟩

theorem EarnsOn.bind {talk : Talk α} {next : α → Talk β} {P : α → List BoltSight → Prop}
    {Q : β → List BoltSight → Prop} (h : EarnsOn link talk P)
    (hnext : ∀ a sights, P a sights → EarnsOn link (next a) fun b later => Q b (sights ++ later)) :
    EarnsOn link (talk >>= next) Q := by
  intro world hlink
  refine (h world hlink).bind ?_
  rintro a sights after ⟨hpool, hP⟩
  refine (hnext a sights hP after (hpool ▸ hlink)).imp ?_
  rintro b later last ⟨hlast, hQ⟩
  exact ⟨hlast.trans hpool, hQ⟩

theorem EarnsOn.imp {talk : Talk α} {P Q : α → List BoltSight → Prop} (h : EarnsOn link talk P)
    (hPQ : ∀ a sights, P a sights → Q a sights) : EarnsOn link talk Q :=
  fun world hlink => (h world hlink).imp fun a sights _ hP => ⟨hP.1, hPQ a sights hP.2⟩

theorem earnsOn_request (request : BoltRequest) (link : BoltLink) :
    EarnsOn link (BoltPool.request request) fun answer sights =>
      link.closed = false ∧
        sights = [.request link.number request (.success answer.1 answer.2)] := by
  intro world hlink
  refine (earns_request request world).imp ?_
  rintro answer sights after ⟨hpool, link', hlink', hrequest⟩
  obtain rfl : link' = link := Option.some.inj (hlink'.symm.trans hlink)
  exact ⟨hpool, hrequest⟩

theorem earnsOn_discard_request (request : BoltRequest) (link : BoltLink) :
    EarnsOn link (discard (BoltPool.request request)) fun _ sights =>
      link.closed = false ∧ Granted link.number [request] sights := by
  refine (earnsOn_request request link).bind ?_
  rintro answer _ ⟨hopen, rfl⟩
  exact earnsOn_pure ⟨hopen, .cons ⟨_, _, rfl⟩ .nil⟩

/-! ## Links -/

/-- A version leaves a link as it is, if the client speaks it. -/
theorem ofVersion_eq_ok_iff {number : Nat} {closed closed' : Bool} :
    ofVersion number closed = .ok closed' ↔
      BoltGreeting.speaks number = true ∧ closed = closed' := by
  unfold ofVersion
  split <;> simp [*]

/-- A link stays open only if the peer and its client agree on whether it is secured, and on a
version. -/
theorem chosen?_of_ofGreeting {secured : Bool} {greeting : BoltGreeting}
    (h : ofGreeting secured greeting = .ok false) :
    ∃ version, greeting.chosen? secured = some version ∧ BoltGreeting.speaks version = true := by
  have hplain : ∀ {greeting}, ofPlainGreeting greeting = .ok false →
      ∃ version, greeting = .version version ∧ BoltGreeting.speaks version = true := by
    intro greeting h
    cases greeting with
    | version number => exact ⟨number, rfl, (ofVersion_eq_ok_iff.mp h).1⟩
    | bytes data =>
        rw [ofPlainGreeting] at h
        split at h
        · cases h
        · cases (ofVersion_eq_ok_iff.mp h).2
    | _ => cases h
  cases secured with
  | false =>
      obtain ⟨version, rfl, hspeaks⟩ := hplain h
      exact ⟨version, rfl, hspeaks⟩
  | true =>
      cases greeting with
      | secured greeting =>
          obtain ⟨version, rfl, hspeaks⟩ := hplain h
          exact ⟨version, rfl, hspeaks⟩
      | _ => cases h

/-- A link that is opened is kept; whether it stays open is up to the greeting. -/
theorem earns_openLink (world : BoltPool × BoltNet) :
    Earns world openLink fun _ sights after => ∃ closed greeting,
      after.1 = { world.1 with link := some ⟨world.2.links, closed⟩ } ∧
        sights = [.opening world.2.links greeting] ∧
        (closed = false → ∃ version,
          greeting.chosen? world.1.endpoint.secured = some version ∧
            BoltGreeting.speaks version = true) := by
  obtain ⟨⟨endpoint, user, password, kept⟩, ⟨peer, seen, links, files, nowMs⟩⟩ := world
  unfold Earns openLink Act.change Act.run ExceptT.run ExceptT.mk BoltNet.open?
  dsimp only
  cases peer with
  | none => nofun
  | some peer =>
      dsimp only
      by_cases hthere : peer.host = endpoint.host ∧ peer.port = endpoint.port
      · rw [if_pos hthere]
        dsimp only
        cases hclosed : ofGreeting endpoint.secured peer.greet.1 with
        | error fault => nofun
        | ok closed =>
            intro _ _
            refine ⟨[.opening links peer.greet.1], rfl, closed, peer.greet.1, rfl, rfl, ?_⟩
            rintro rfl
            exact chosen?_of_ofGreeting hclosed
      · rw [if_neg hthere]
        nofun

theorem earns_current (world : BoltPool × BoltNet) :
    Earns world current fun seen sights after => seen = world ∧ sights = [] ∧ after = world := by
  rintro _ ⟨⟩
  exact ⟨[], (List.append_nil _).symm, rfl, rfl, rfl⟩

theorem earns_logIn (hlink : world.1.link = some link) :
    Earns world logIn fun _ sights after => after.1 = world.1 ∧ link.closed = false ∧
      Granted link.number [.hello world.1.user world.1.password.value world.1.endpoint.routing]
        sights := by
  refine (earns_current world).bind ?_
  rintro ⟨pool, net⟩ _ _ ⟨rfl, rfl, rfl⟩
  exact earnsOn_discard_request _ link (pool, net) hlink

/-- A talk on a new link is one on the pool without the old link, and it fails if the login does. -/
theorem earns_connect_of {Q : Unit → List BoltSight → BoltPool × BoltNet → Prop}
    (h : Earns ({ world.1 with link := none }, world.2) (do openLink; logIn) Q) :
    Earns world connect Q := by
  intro _ hok
  unfold connect at hok ⊢
  rw [ExceptT.run_mk, Act.run_bind, Act.run_bind] at hok ⊢
  cases hvalue : ((do openLink; logIn : Talk Unit).run.run (leave.run world).world).value with
  | error fault =>
      rw [hvalue] at hok
      cases hok
  | ok _ => exact h () hvalue

theorem earns_connect (world : BoltPool × BoltNet) :
    Earns world connect fun _ sights after =>
      after.1 = { world.1 with link := some ⟨world.2.links, false⟩ } ∧
        LoggedIn world.1 world.2.links sights := by
  apply earns_connect_of
  refine (earns_openLink _).bind ?_
  rintro _ _ ⟨_, net⟩ ⟨closed, greeting, rfl, rfl, hopen⟩
  refine (earns_logIn rfl).imp ?_
  rintro _ login after ⟨hpool, hclosed, hlogin⟩
  obtain ⟨version, hchosen, hspeaks⟩ := hopen hclosed
  obtain rfl : closed = false := hclosed
  exact ⟨hpool, .intro hchosen hspeaks hlogin⟩

/-- **A pool that is ready** for a transaction keeps an open link. -/
theorem earns_ready (world : BoltPool × BoltNet) :
    Earns world ready fun _ sights after => ∃ link, after.1.link = some link ∧
      MadeReady world.1 world.2.links link.number sights := by
  obtain ⟨pool, net⟩ := world
  intro _ hok
  unfold ready at hok ⊢
  rw [ExceptT.run_mk, Act.run_bind, Act.run_look] at hok ⊢
  dsimp only at hok ⊢
  cases hlink : pool.link with
  | none =>
      rw [hlink] at hok
      obtain ⟨sights, hseen, hafter, hlogin⟩ := earns_connect (pool, net) () hok
      have hrefused : ∀ sight ∈ [], ∃ link ∈ pool.link, ∃ reply,
          sight = BoltSight.request link.number .reset reply := nofun
      exact ⟨sights, hseen, ⟨net.links, false⟩, by rw [hafter], .opened hrefused hlogin⟩
  | some link =>
      rw [hlink] at hok
      dsimp only at hok ⊢
      rw [Act.run_bind] at hok ⊢
      cases hreset : ((request .reset).run.run (pool, net)).value with
      | ok answer =>
          obtain ⟨sights, hseen, hpool, link', hlink', -, rfl⟩ :=
            earns_request .reset (pool, net) answer hreset
          obtain rfl : link' = link := Option.some.inj (hlink'.symm.trans hlink)
          exact ⟨_, hseen, link', hpool ▸ hlink, .kept hlink (.cons ⟨_, _, rfl⟩ .nil)⟩
      | error fault =>
          -- The link is given up, and what is left of the pool is what the new one is opened for.
          obtain ⟨refused, hheard, -⟩ := heard_ask .reset (pool, net)
          rw [hreset] at hok
          obtain ⟨sights, hseen, hafter, hlogin⟩ := earns_connect _ () hok
          have hnew : LoggedIn pool net.links sights :=
            hheard.links ▸ hlogin.of_pool_eq hheard.pool
          have hready : MadeReady pool net.links net.links (refused ++ sights) :=
            .opened hheard.sights hnew
          refine ⟨refused ++ sights, ?_, ⟨net.links, false⟩, ?_, hready⟩
          · rw [← List.append_assoc, ← hheard.seen]
            exact hseen
          · rw [← hheard.links]
            exact congrArg BoltPool.link hafter

/-! ## Transactions -/

/-- Rows that are pulled were all granted. The induction is on the bound, and a peer that exceeds
it brings no success. -/
theorem earnsOn_pullRows (bound : Nat) (link : BoltLink) :
    EarnsOn link (pullRows bound) (PulledAll link.number) := by
  induction bound with
  | zero => exact fun _ _ _ hok => nomatch hok
  | succ bound ih =>
      refine (earnsOn_request (.pull fetchSize) link).bind ?_
      rintro ⟨rows, more⟩ _ ⟨-, rfl⟩
      cases more with
      | false => exact earnsOn_pure (.last rows)
      | true =>
          refine ih.bind fun later sights hlater => earnsOn_pure ?_
          rw [List.append_nil]
          exact .more rows hlater

theorem earnsOn_pullAll (link : BoltLink) : EarnsOn link pullAll (PulledAll link.number) := by
  intro world hlink
  refine (earns_current world).bind ?_
  rintro ⟨pool, net⟩ _ _ ⟨rfl, rfl, rfl⟩
  exact earnsOn_pullRows _ link (pool, net) hlink

/-- A link was made ready, and the exchange took place on it. -/
def InTransaction (world : BoltPool × BoltNet) (exchanged : Nat → List BoltSight → Prop)
    (sights : List BoltSight) : Prop :=
  ∃ link opening exchange, sights = opening ++ exchange ∧
    MadeReady world.1 world.2.links link opening ∧ exchanged link exchange

/-- A talk that starts with a transaction earns what it earns on the link that is ready. -/
theorem earns_transaction (world : BoltPool × BoltNet) {rest : Talk α}
    {exchanged : α → Nat → List BoltSight → Prop}
    (hrest : ∀ link started, Granted link.number [.start database] started →
      EarnsOn link rest fun a sights => exchanged a link.number (started ++ sights)) :
    Earns world (start >>= fun _ => rest) fun a sights _ =>
      InTransaction world (exchanged a) sights := by
  have hstart : (start >>= fun _ => rest) =
      ready >>= fun _ => discard (request (.start database)) >>= fun _ => rest :=
    bind_assoc _ _ _
  rw [hstart]
  refine (earns_ready world).bind ?_
  rintro _ opening after ⟨link, hlink, hopening⟩
  have htalk : EarnsOn link (discard (request (.start database)) >>= fun _ => rest)
      fun a exchange => exchanged a link.number exchange :=
    (earnsOn_discard_request _ link).bind fun _ started hstarted => hrest link started hstarted.2
  refine (htalk after hlink).imp ?_
  rintro a exchange _ ⟨-, hexchange⟩
  exact ⟨link.number, opening, exchange, rfl, hopening, hexchange⟩

/-- **To show that statements can be run** takes four granted requests. -/
theorem earns_verify (world : BoltPool × BoltNet) :
    Earns world verify fun _ sights _ => InTransaction world Verified sights := by
  refine earns_transaction world fun link started hstarted => ?_
  refine (earnsOn_discard_request _ link).bind fun _ stated hstated => ?_
  refine (earnsOn_discard_request _ link).bind fun _ discarded hdiscarded => ?_
  refine (earnsOn_discard_request _ link).imp fun _ closing hclosing => ?_
  exact hstarted.append (hstated.2.append (hdiscarded.2.append hclosing.2))

/-- **A count of rows** takes a transaction in which all of them were granted. -/
theorem earns_rowCount (statement : String) (world : BoltPool × BoltNet) :
    Earns world (rowCount statement) fun rows sights _ =>
      InTransaction world (Counted statement · rows) sights := by
  refine earns_transaction world fun link started hstarted => ?_
  refine (earnsOn_discard_request _ link).bind fun _ stated hstated => ?_
  refine (earnsOn_pullAll link).bind fun rows pulls hpulls => ?_
  refine (earnsOn_discard_request _ link).bind fun _ closing hclosing => earnsOn_pure ?_
  rw [List.append_nil, ← List.append_assoc]
  exact .intro (hstarted.append hstated.2) hpulls hclosing.2

end BoltPool

end Preflight
