import Preflight.Text.Decimal
import Preflight.Text.Search

/-!
# URLs

A URL is kept in parts that are ready to be written: percent encoding has been
applied, names are in lower case where their case does not matter, and a port
that is the scheme's own is left out. The *special* schemes are those of the web;
their URLs always have a host and a path.
-/

namespace Preflight

/-- Why a text is no URL. -/
inductive UrlFault where
  /-- There is no scheme. -/
  | noScheme
  | emptyHost
  | badPort
  | badIpv4
  | badIpv6
  | badDomain
  deriving DecidableEq, Repr

/-- The sentence for readers. -/
def UrlFault.message : UrlFault → String
  | noScheme => "relative URL without a base"
  | emptyHost => "empty host"
  | badPort => "invalid port number"
  | badIpv4 => "invalid IPv4 address"
  | badIpv6 => "invalid IPv6 address"
  | badDomain => "invalid domain character"

/-- The name of a fault in diagnostic texts. -/
def UrlFault.label : UrlFault → String
  | noScheme => "RelativeUrlWithoutBase"
  | emptyHost => "EmptyHost"
  | badPort => "InvalidPort"
  | badIpv4 => "InvalidIpv4Address"
  | badIpv6 => "InvalidIpv6Address"
  | badDomain => "InvalidDomainCharacter"

/-- The host of a URL. -/
inductive UrlHost where
  | domain (name : String)
  | ipv4 (address : Nat)
  | ipv6 (groups : List Nat)
  deriving DecidableEq, Repr

namespace UrlHost

/-- The four numbers of an address, divided by points. -/
def ipv4Text (address : Nat) : String :=
  Text.joined "." ([16777216, 65536, 256, 1].map fun unit => Text.decimal (address / unit % 256))

/-- The length of the run of zeros in front. -/
def zeros (groups : List Nat) : Nat := (groups.takeWhile (· = 0)).length

/-- The place and length of the longest run of zeros, the first one of several. -/
def longestZeros : Nat → List Nat → Nat × Nat
  | _, [] => (0, 0)
  | index, group :: rest =>
      let here := zeros (group :: rest)
      let (place, later) := longestZeros (index + 1) rest
      if later ≤ here then (index, here) else (place, later)

/-- The groups of an address between colons; the longest run of zeros is left out. -/
def ipv6Text (groups : List Nat) : String :=
  let write (gs : List Nat) := Text.joined ":" (gs.map fun g => String.ofList (Text.hexDigits g))
  let (place, length) := longestZeros 0 groups
  if length < 2 then write groups
  else write (groups.take place) ++ "::" ++ write (groups.drop (place + length))

/-- Write a host. -/
def text : UrlHost → String
  | domain name => name
  | ipv4 address => ipv4Text address
  | ipv6 groups => "[" ++ ipv6Text groups ++ "]"

end UrlHost

/-- The parts of a URL, each in its written form. -/
structure Url where
  scheme : String
  username : String := ""
  password : Option String := none
  host : Option UrlHost := none
  /-- The port, unless it is the one of the scheme. -/
  port : Option Nat := none
  path : String := ""
  query : Option String := none
  fragment : Option String := none
  deriving DecidableEq, Repr

namespace Url

/-- The schemes of the web and their ports. -/
def specialSchemes : List (String × Option Nat) :=
  [("http", some 80), ("https", some 443), ("ws", some 80), ("wss", some 443), ("ftp", some 21),
   ("file", none)]

/-- Is the scheme one of the web? -/
def isSpecial (scheme : String) : Bool := (specialSchemes.lookup scheme).isSome

/-- The port that a scheme has of its own. -/
def defaultPort? (scheme : String) : Option Nat := (specialSchemes.lookup scheme).join

/-- The port to connect to. -/
def port? (url : Url) : Option Nat := url.port.or (defaultPort? url.scheme)

/-- The credentials with the sign behind them, if there are any. -/
def credentials (url : Url) : String :=
  if url.username = "" ∧ url.password = none then ""
  else
    url.username ++ (match url.password with | none => "" | some p => ":" ++ p) ++ "@"

/-- Host and port. -/
def authority (url : Url) (host : UrlHost) : String :=
  host.text ++ (match url.port with | none => "" | some p => ":" ++ Text.decimal p)

/-- What is asked of the host: the path, and the query if there is one. -/
def target (url : Url) : String :=
  url.path ++ (match url.query with | none => "" | some q => "?" ++ q)

/-- Write a URL. -/
def text (url : Url) : String :=
  url.scheme ++ ":" ++
    (match url.host with
      | none => ""
      | some host => "//" ++ url.credentials ++ url.authority host) ++
    url.target ++ (match url.fragment with | none => "" | some f => "#" ++ f)

end Url

end Preflight
