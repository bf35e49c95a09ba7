import Preflight.Bolt.Endpoint
import Preflight.Bolt.Net
import Preflight.Secret

/-!
# Pools of links

A pool opens links to one endpoint and keeps them for further use. Its client
has one transaction at a time, so a pool keeps at most one link, whether the
transaction on it went well or not. Before a link is used again it is reset; one
that cannot be reset is left for a new one.

A *talk* is an act on a pool and its surroundings that may fail. A talk that
fails sends nothing more: a transaction that is left open ends when its link is
reset or closed.

The two talks that the library needs are `verify`, which shows that a statement
can be run, and `rowCount`, which runs a statement and counts its rows. Both roll
their transaction back.
-/

namespace Preflight

/-- A link that was opened. -/
structure BoltLink where
  number : Nat
  /-- Has the peer closed it? -/
  closed : Bool := false
  deriving DecidableEq, Repr

/-- Links to one endpoint for one user. -/
structure BoltPool where
  endpoint : BoltEndpoint
  user : String
  password : Secret
  /-- The link that is kept. -/
  link : Option BoltLink := none
  deriving DecidableEq

/-- An act on a pool and its surroundings that may fail. -/
abbrev Talk (α : Type) : Type := ExceptT BoltFault (Act (BoltPool × BoltNet)) α

namespace BoltPool

/-- The database that transactions are on. -/
def database : String := "neo4j"

/-- The number of rows that are asked for at a time. -/
def fetchSize : Nat := 200

/-- The statement that shows that statements can be run. -/
def probeStatement : String := "RETURN 1"

/-- The pool and its surroundings as they are. -/
def current : Talk (BoltPool × BoltNet) := ExceptT.lift Act.look

/-! ## One request -/

/-- Send a request on the link that is kept. -/
def ask (request : BoltRequest) : Act (BoltPool × BoltNet) (Except LinkFault BoltReply) :=
  Act.change fun (pool, net) =>
    match pool.link with
    | none => (.error .closed, pool, net)
    | some link =>
        if link.closed then (.error .closed, pool, net)
        else
          let (reply, net) := net.reply link.number request
          match reply with
          | .hangUp =>
              (.error .closed, { pool with link := some { link with closed := true } }, net)
          | .stray => (.error .strayMessage, pool, net)
          | reply => (.ok reply, pool, net)

/-- Send a request that has to be carried out; the rows that come with the reply and whether more
of them are left. -/
def request (request : BoltRequest) : Talk (Nat × Bool) :=
  ExceptT.mk do
    let answer ← ask request
    return BoltFault.ofAnswer request.kind answer

/-! ## Links -/

/-- What a version means for a client: the link stays as it is, or it is of no use. -/
def ofVersion (number : Nat) (closed : Bool) : Except BoltFault Bool :=
  if BoltGreeting.speaks number then .ok closed else .error (.badVersion number)

/-- What bytes mean for a client who waits for the first record of a secured session. A peer that
closes the link behind a whole record is one that is `distrusted`. -/
def ofRecord : List UInt8 → LinkFault
  | [] => .closedUnsecured
  | byte :: _ => if BoltGreeting.beginsRecord byte.toNat then .closedUnsecured else .notSecured

/-- What a greeting means for a client who does not secure its sessions, or not any more. -/
def ofPlainGreeting : BoltGreeting → Except BoltFault Bool
  | .silence => .error .silence
  | .hangUp => .error (.link .closedEarly)
  | .version number => ofVersion number false
  | .secured _ => .error (.link .closedEarly)
  | .distrusted _ _ => .error (.link .closedEarly)
  | .bytes data =>
      match BoltGreeting.number? data with
      | none => .error (.link .closedEarly)
      | some number => ofVersion number true

/-- What a greeting means for a client who secures its sessions. The number of a version is four
bytes, the highest one first, and whoever waits for a record looks at the first byte of it. -/
def ofSecuredGreeting : BoltGreeting → Except BoltFault Bool
  | .silence => .error .silence
  | .hangUp => .error (.link .closedUnsecured)
  | .version number =>
      .error (if BoltGreeting.beginsRecord (number / 16777216 % 256) then .silence
        else .link .notSecured)
  | .secured greeting => ofPlainGreeting greeting
  | .distrusted text detail => .error (.link (.transport text detail))
  | .bytes data => .error (.link (ofRecord data))

/-- What a greeting means for a client: the link is closed or not, or it is of no use. -/
def ofGreeting (secured : Bool) (greeting : BoltGreeting) : Except BoltFault Bool :=
  if secured then ofSecuredGreeting greeting else ofPlainGreeting greeting

/-- Open a link and agree on a version. -/
def openLink : Talk Unit :=
  ExceptT.mk <| Act.change fun (pool, net) =>
    match net.open? pool.endpoint.host pool.endpoint.port with
    | (none, net) => (.error (.link .refused), pool, net)
    | (some (number, greeting), net) =>
        match ofGreeting pool.endpoint.secured greeting with
        | .error fault => (.error fault, pool, net)
        | .ok closed => (.ok (), { pool with link := some { number, closed } }, net)

/-- Leave the link that is kept. -/
def leave : Act (BoltPool × BoltNet) Unit :=
  Act.change fun (pool, net) => ((), { pool with link := none }, net)

/-- Log in on the link that is kept. -/
def logIn : Talk Unit := do
  let (pool, _) ← current
  discard <| request (.hello pool.user pool.password.value pool.endpoint.routing)

/-- Get a new link; one on which the login fails is not kept. -/
def connect : Talk Unit :=
  ExceptT.mk do
    leave
    match ← (do openLink; logIn : Talk Unit).run with
    | .ok () => return .ok ()
    | .error fault =>
        leave
        return .error fault

/-- Make the link that is kept ready for a transaction, or get a new one. Outside the opening of a
session no time bounds this, and a client would wait for a peer that is silent. -/
def ready : Talk Unit :=
  ExceptT.mk do
    let (pool, _) ← Act.look
    match pool.link with
    | none => connect.run
    | some _ =>
        match ← (request .reset).run with
        | .ok _ => return .ok ()
        | .error _ => connect.run

/-! ## Transactions -/

/-- Start a transaction. -/
def start : Talk Unit := do
  ready
  discard <| request (.start database)

/-- Send a statement. -/
def send (statement : String) : Talk Unit :=
  discard <| request (.statement statement database)

/-- Ask for rows until none are left, and count them. A peer that has more of them each of `bound`
times comes to no end. -/
def pullRows : Nat → Talk Nat
  | 0 => throw .silence
  | bound + 1 => do
      let (rows, more) ← request (.pull fetchSize)
      if more then return rows + (← pullRows bound) else return rows

/-- Ask for all rows. The peer uses up a reply for each time that it has more. -/
def pullAll : Talk Nat := do
  let (_, net) ← current
  pullRows (net.repliesLeft + 1)

/-- Show that a statement can be run. -/
def verify : Talk Unit := do
  start
  send probeStatement
  discard <| request .discard
  discard <| request .rollback

/-- Run a statement and count its rows. -/
def rowCount (statement : String) : Talk Nat := do
  start
  send statement
  let rows ← pullAll
  discard <| request .rollback
  return rows

end BoltPool

end Preflight
