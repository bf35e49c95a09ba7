import Preflight.Act
import Preflight.Bolt.Fault
import Preflight.Files

/-!
# The surroundings of a client

A `BoltNet` is what a client of the Bolt protocol finds around it: the peer, if
one is there, the files that hold certificates, the clock, and an account of all
that reached the peer. The peer is a script: for each kind of request it has
replies ready, which it uses up in order over all links; where it has none left
it does what it is asked.
-/

namespace Preflight

/-- A peer that accepts links at an address. -/
structure BoltPeer where
  host : String
  port : Nat
  /-- How it greets the links to come. -/
  greetings : List BoltGreeting := []
  /-- The replies it has ready, each for one kind of request. -/
  replies : List (BoltRequestKind × BoltReply) := []
  deriving DecidableEq, Repr

namespace BoltPeer

/-- The greeting of the next link. -/
def greet (peer : BoltPeer) : BoltGreeting × BoltPeer :=
  (peer.greetings.headD (.version 260), { peer with greetings := peer.greetings.tail })

/-- The reply to a request of a kind: the first one that is ready for it. -/
def reply (peer : BoltPeer) (kind : BoltRequestKind) : BoltReply × BoltPeer :=
  ((peer.replies.lookup kind).getD .done,
    { peer with replies := peer.replies.eraseP fun entry => entry.1 = kind })

end BoltPeer

/-- What reached the peer, and what it did about it. Links are numbered in the order in which they
were opened. -/
inductive BoltSight where
  | opening (link : Nat) (greeting : BoltGreeting)
  | request (link : Nat) (request : BoltRequest) (reply : BoltReply)
  deriving DecidableEq, Repr

/-- The surroundings of a client. -/
structure BoltNet where
  peer : Option BoltPeer := none
  /-- What reached the peer so far. -/
  seen : List BoltSight := []
  /-- The number of links that were opened. -/
  links : Nat := 0
  files : Files := ⟨[], []⟩
  /-- The time, in milliseconds. -/
  nowMs : Nat := 0

namespace BoltNet

/-- Open a link to an address: its number and the greeting of the peer, or nothing if nobody
accepts links there. -/
def open? (net : BoltNet) (host : String) (port : Nat) : Option (Nat × BoltGreeting) × BoltNet :=
  match net.peer with
  | none => (none, net)
  | some peer =>
      if peer.host = host ∧ peer.port = port then
        let (greeting, peer) := peer.greet
        (some (net.links, greeting),
          { net with
            peer := some peer
            seen := net.seen ++ [.opening net.links greeting]
            links := net.links + 1 })
      else (none, net)

/-- Let the peer reply to a request on a link. -/
def reply (net : BoltNet) (link : Nat) (request : BoltRequest) : BoltReply × BoltNet :=
  match net.peer with
  | none => (.hangUp, net)
  | some peer =>
      let (reply, peer) := peer.reply request.kind
      (reply, { net with peer := some peer, seen := net.seen ++ [.request link request reply] })

/-- An upper bound on the number of requests to come that are not simply carried out. -/
def repliesLeft (net : BoltNet) : Nat :=
  match net.peer with
  | none => 0
  | some peer => peer.replies.length

end BoltNet

end Preflight
