import Preflight.Bolt.Pool
import Preflight.Proofs.Alike

/-!
# Talks that differ in a password

A pool has a password for one purpose, to log in on a link. The peer takes it with
the login and replies by its script, in which there is nothing about passwords. So
two pools with different passwords that talk to the same peer are told the same,
and what they leave behind differs in the account of the logins alone.

Pools and surroundings that differ at most in this are *twins*. Each talk of the
library keeps them twins and comes to the same value on both. The one talk that
takes more than the value of the one before it is `pullRows`, and the induction is
on its bound.

## Main results

* `BoltPool.alike_verify`, `BoltPool.alike_rowCount` — the talks on twins are alike.
-/

namespace Preflight

variable {α β : Type}

/-! ## Twins -/

/-- The request without a password. -/
def BoltRequest.hidden : BoltRequest → BoltRequest
  | hello user _ routing => .hello user "" routing
  | request => request

theorem BoltRequest.kind_eq_of_hidden_eq {request request' : BoltRequest}
    (h : request.hidden = request'.hidden) : request.kind = request'.kind := by
  have hkind : ∀ request : BoltRequest, request.hidden.kind = request.kind := by
    intro request
    cases request <;> rfl
  rw [← hkind request, h, hkind request']

/-- The sight without a password. -/
def BoltSight.hidden : BoltSight → BoltSight
  | request link sent reply => .request link sent.hidden reply
  | sight => sight

/-- Surroundings that differ at most in the passwords that the peer was shown. -/
structure BoltNet.Twins (net net' : BoltNet) : Prop where
  peer : net.peer = net'.peer
  seen : net.seen.map BoltSight.hidden = net'.seen.map BoltSight.hidden
  links : net.links = net'.links
  files : net.files = net'.files
  nowMs : net.nowMs = net'.nowMs

/-- Pools that differ at most in their passwords. -/
structure BoltPool.Twins (pool pool' : BoltPool) : Prop where
  endpoint : pool.endpoint = pool'.endpoint
  user : pool.user = pool'.user
  link : pool.link = pool'.link

namespace BoltNet

theorem Twins.refl (net : BoltNet) : net.Twins net := ⟨rfl, rfl, rfl, rfl, rfl⟩

variable {net net' : BoltNet}

theorem Twins.reply (h : net.Twins net') (link : Nat) {request request' : BoltRequest}
    (hrequest : request.hidden = request'.hidden) :
    (net.reply link request).1 = (net'.reply link request').1 ∧
      (net.reply link request).2.Twins (net'.reply link request').2 := by
  unfold BoltNet.reply
  rw [← h.peer, ← BoltRequest.kind_eq_of_hidden_eq hrequest]
  cases net.peer with
  | none => exact ⟨rfl, h⟩
  | some peer =>
      refine ⟨rfl, rfl, ?_, h.links, h.files, h.nowMs⟩
      simp only [List.map_append, List.map_cons, List.map_nil, BoltSight.hidden, h.seen, hrequest]

theorem Twins.open? (h : net.Twins net') (host : String) (port : Nat) :
    (net.open? host port).1 = (net'.open? host port).1 ∧
      (net.open? host port).2.Twins (net'.open? host port).2 := by
  unfold BoltNet.open?
  rw [← h.peer, ← h.links]
  cases net.peer with
  | none => exact ⟨rfl, h⟩
  | some peer =>
      dsimp only
      split
      · refine ⟨rfl, rfl, ?_, rfl, h.files, h.nowMs⟩
        simp only [List.map_append, h.seen]
      · exact ⟨rfl, h⟩

theorem Twins.repliesLeft (h : net.Twins net') : net.repliesLeft = net'.repliesLeft := by
  unfold BoltNet.repliesLeft
  rw [h.peer]

end BoltNet

/-- A pool and its surroundings, and a twin of both. -/
def TalkTwins (world world' : BoltPool × BoltNet) : Prop :=
  world.1.Twins world'.1 ∧ world.2.Twins world'.2

/-! ## Talks on twins -/

/-- Talks that come to the same value on twins and leave twins. -/
def Talk.Alike (talk talk' : Talk α) : Prop := Act.Alike TalkTwins Eq talk.run talk'.run

namespace Talk

theorem alike_pure (a : α) : Alike (pure a) (pure a) := Act.alike_pure rfl

theorem alike_throw (fault : BoltFault) : Alike (throw fault : Talk α) (throw fault) :=
  Act.alike_pure rfl

theorem Alike.bind {talk talk' : Talk α} {next next' : α → Talk β} (h : Alike talk talk')
    (hnext : ∀ a, Alike (next a) (next' a)) : Alike (talk >>= next) (talk' >>= next') := by
  refine Act.Alike.bind h ?_
  rintro result _ rfl
  cases result with
  | ok a => exact hnext a
  | error fault => exact Act.alike_pure rfl

theorem Alike.discard {talk talk' : Talk α} (h : Alike talk talk') :
    Alike (discard talk) (discard talk') :=
  h.bind fun _ => alike_pure ()

end Talk

namespace BoltPool

theorem alike_look : Act.Alike TalkTwins TalkTwins Act.look Act.look :=
  fun _ _ h => ⟨h, h, rfl⟩

theorem alike_ask {request request' : BoltRequest} (hrequest : request.hidden = request'.hidden) :
    Act.Alike TalkTwins Eq (ask request) (ask request') := by
  rintro ⟨⟨endpoint, user, password, link⟩, net⟩ ⟨⟨_, _, password', _⟩, net'⟩
    ⟨⟨rfl, rfl, rfl⟩, hnet⟩
  unfold ask Act.change Act.run
  dsimp only
  cases link with
  | none => exact ⟨rfl, ⟨⟨rfl, rfl, rfl⟩, hnet⟩, rfl⟩
  | some link =>
      dsimp only
      by_cases hclosed : link.closed
      · rw [if_pos hclosed, if_pos hclosed]
        exact ⟨rfl, ⟨⟨rfl, rfl, rfl⟩, hnet⟩, rfl⟩
      · obtain ⟨hreply, hafter⟩ := hnet.reply link.number hrequest
        rw [if_neg hclosed, if_neg hclosed, ← hreply]
        cases (net.reply link.number request).1 with
        | hangUp => exact ⟨rfl, ⟨⟨rfl, rfl, rfl⟩, hafter⟩, rfl⟩
        | stray => exact ⟨rfl, ⟨⟨rfl, rfl, rfl⟩, hafter⟩, rfl⟩
        | success rows more => exact ⟨rfl, ⟨⟨rfl, rfl, rfl⟩, hafter⟩, rfl⟩
        | failure code message => exact ⟨rfl, ⟨⟨rfl, rfl, rfl⟩, hafter⟩, rfl⟩
        | record => exact ⟨rfl, ⟨⟨rfl, rfl, rfl⟩, hafter⟩, rfl⟩

/-- **Requests that differ in the password are answered alike.** -/
theorem alike_request {request request' : BoltRequest}
    (hrequest : request.hidden = request'.hidden) :
    Talk.Alike (BoltPool.request request) (BoltPool.request request') := by
  refine Act.Alike.bind (alike_ask hrequest) ?_
  rintro answer _ rfl
  rw [BoltRequest.kind_eq_of_hidden_eq hrequest]
  exact Act.alike_pure rfl

theorem alike_leave : Act.Alike TalkTwins Eq leave leave := by
  rintro ⟨pool, net⟩ ⟨pool', net'⟩ ⟨hpool, hnet⟩
  exact ⟨rfl, ⟨⟨hpool.endpoint, hpool.user, rfl⟩, hnet⟩, rfl⟩

theorem alike_openLink : Talk.Alike openLink openLink := by
  rintro ⟨⟨endpoint, user, password, link⟩, net⟩ ⟨⟨_, _, password', _⟩, net'⟩
    ⟨⟨rfl, rfl, rfl⟩, hnet⟩
  obtain ⟨hopened, hafter⟩ := hnet.open? endpoint.host endpoint.port
  unfold openLink Act.change Act.run ExceptT.run ExceptT.mk
  dsimp only
  generalize net.open? endpoint.host endpoint.port = left at hopened hafter ⊢
  generalize net'.open? endpoint.host endpoint.port = right at hopened hafter ⊢
  obtain ⟨opened, after⟩ := left
  obtain ⟨_, after'⟩ := right
  obtain rfl := hopened
  cases opened with
  | none => exact ⟨rfl, ⟨⟨rfl, rfl, rfl⟩, hafter⟩, rfl⟩
  | some link =>
      obtain ⟨number, greeting⟩ := link
      dsimp only
      cases ofGreeting endpoint.secured greeting with
      | error fault => exact ⟨rfl, ⟨⟨rfl, rfl, rfl⟩, hafter⟩, rfl⟩
      | ok closed => exact ⟨rfl, ⟨⟨rfl, rfl, rfl⟩, hafter⟩, rfl⟩

/-- The one request with the password in it. -/
theorem alike_logIn : Talk.Alike logIn logIn := by
  show Act.Alike TalkTwins Eq
    (Act.look >>= fun world => (discard (BoltPool.request (.hello world.1.user
      world.1.password.value world.1.endpoint.routing)) : Talk Unit).run)
    (Act.look >>= fun world => (discard (BoltPool.request (.hello world.1.user
      world.1.password.value world.1.endpoint.routing)) : Talk Unit).run)
  refine alike_look.bind fun world world' h => ?_
  apply Talk.Alike.discard
  apply alike_request
  rw [BoltRequest.hidden, BoltRequest.hidden, h.1.user, h.1.endpoint]

theorem alike_connect : Talk.Alike connect connect := by
  have hopened : Talk.Alike (do openLink; logIn) (do openLink; logIn) :=
    alike_openLink.bind fun _ => alike_logIn
  refine alike_leave.bind fun _ _ _ => Act.Alike.bind hopened ?_
  rintro result _ rfl
  cases result with
  | ok _ => exact Act.alike_pure rfl
  | error fault => exact alike_leave.bind fun _ _ _ => Act.alike_pure rfl

theorem alike_ready : Talk.Alike ready ready := by
  refine alike_look.bind ?_
  rintro ⟨pool, net⟩ ⟨pool', net'⟩ ⟨hpool, _⟩
  dsimp only
  rw [← hpool.link]
  cases pool.link with
  | none => exact alike_connect
  | some link =>
      refine Act.Alike.bind (alike_request rfl) ?_
      rintro result _ rfl
      cases result with
      | ok _ => exact Act.alike_pure rfl
      | error fault => exact alike_connect

theorem alike_start : Talk.Alike start start :=
  alike_ready.bind fun _ => (alike_request rfl).discard

theorem alike_send (statement : String) : Talk.Alike (send statement) (send statement) :=
  (alike_request rfl).discard

theorem alike_pullRows (bound : Nat) : Talk.Alike (pullRows bound) (pullRows bound) := by
  induction bound with
  | zero => exact Talk.alike_throw _
  | succ bound ih =>
      refine (alike_request rfl).bind fun answer => ?_
      obtain ⟨rows, more⟩ := answer
      cases more with
      | true => exact ih.bind fun _ => Talk.alike_pure _
      | false => exact Talk.alike_pure _

theorem alike_pullAll : Talk.Alike pullAll pullAll := by
  show Act.Alike TalkTwins Eq
    (Act.look >>= fun world => (pullRows (world.2.repliesLeft + 1)).run)
    (Act.look >>= fun world => (pullRows (world.2.repliesLeft + 1)).run)
  refine alike_look.bind fun world world' h => ?_
  rw [h.2.repliesLeft]
  exact alike_pullRows _

/-- **To show that a statement can be run** comes to the same on twins. -/
theorem alike_verify : Talk.Alike verify verify := by
  refine alike_start.bind fun _ => (alike_send _).bind fun _ => ?_
  exact (alike_request rfl).discard.bind fun _ => (alike_request rfl).discard

/-- **To run a statement and count its rows** comes to the same on twins. -/
theorem alike_rowCount (statement : String) :
    Talk.Alike (rowCount statement) (rowCount statement) := by
  refine alike_start.bind fun _ => (alike_send statement).bind fun _ => ?_
  refine alike_pullAll.bind fun rows => ?_
  exact (alike_request rfl).discard.bind fun _ => Talk.alike_pure rows

end BoltPool

end Preflight
