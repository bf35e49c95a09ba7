import Preflight.Bolt.Fault
import Preflight.Url.Parser

/-!
# Endpoints

A `BoltEndpoint` is the place that a URI names: a host, a port, and whether the
session is to be secured and the requests routed. The user, the path and the
query of the URI do not count. A URI without a host is read once more with a
scheme in front, as if its scheme were the host.

A certificate is made out to a name or an address, so a host that is neither
cannot be reached over a secured session.
-/

namespace Preflight

/-- The place that a client connects to. -/
structure BoltEndpoint where
  host : String
  port : Nat
  secured : Bool
  /-- Does the client ask to be routed? -/
  routing : Bool
  deriving DecidableEq, Repr

namespace BoltEndpoint

/-- The schemes of the protocol. -/
def schemes : List String := ["bolt", "bolt+s", "bolt+ssc", "neo4j", "neo4j+s", "neo4j+ssc"]

/-- The port of the protocol. -/
def defaultPort : Nat := 7687

/-- A character of a label of a host name. -/
def isLabelChar (c : Char) : Bool := c.isAlphanum || c = '-' || c = '_'

/-- A label of a host name. -/
def isLabel (label : List Char) : Bool :=
  !label.isEmpty && label.length ≤ 63 && label.all isLabelChar &&
    label.head? ≠ some '-' && label.getLast? ≠ some '-'

/-- The labels of a host name; one point at the end is allowed. -/
def labels (name : List Char) : List (List Char) :=
  let parts := Text.splitAtChar '.' name
  if 1 < parts.length ∧ parts.getLast? = some [] then parts.dropLast else parts

/-- A host name: labels, the last of which is no number. -/
def isHostName (name : List Char) : Bool :=
  name.length ≤ 253 && (labels name).all isLabel &&
    !((labels name).getLastD []).all Text.isDecimalDigit

/-- An address of four numbers. -/
def isIpv4 (name : List Char) : Bool := (UrlHost.embeddedIpv4? name).isSome

/-- Can a certificate be made out to a host? -/
def isCertifiable : UrlHost → Bool
  | .domain name => isIpv4 name.toList || isHostName name.toList
  | .ipv4 _ => true
  | .ipv6 _ => true

/-- The URL of a URI, read once more if it has no host. -/
def url (uri : String) : Except UrlFault Url := do
  let url ← Url.parse uri
  if url.host.isNone then Url.parse ("bolt://" ++ uri) else return url

/-- The endpoint that a URI names. -/
def ofUri (uri : String) : Except BoltFault BoltEndpoint :=
  match url uri with
  | .error fault => .error (.badAddress fault)
  | .ok url =>
      let host := url.host.getD (.domain "")
      let secured := url.scheme.toList.contains '+'
      if !schemes.contains url.scheme then .error (.badScheme url.scheme)
      else if secured && !isCertifiable host then .error (.badName host.text)
      else
        .ok
          { host := host.text
            port := url.port.getD defaultPort
            secured
            routing := "neo4j".toList.isPrefixOf url.scheme.toList }

end BoltEndpoint

end Preflight
