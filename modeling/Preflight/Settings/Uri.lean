import Preflight.Settings
import Preflight.Text.Blank
import Preflight.Text.LowerCase

/-!
# The Bolt URI of settings

The address may carry a scheme of its own, `bolt` or `neo4j`, with or without a
suffix that asks for transport security. The suffix is never taken over: whether
the session is secured is told by the flags alone. Certificates are verified in
every secured session, so flags that ask for one without verification are
refused.

| encrypted | validates | suffix  |
|-----------|-----------|---------|
| false     | either    | none    |
| true      | true      | `+s`    |
| true      | false     | refused |
-/

namespace Preflight

/-- Why settings have no URI. -/
inductive UriFault where
  | unsupportedScheme (scheme : String)
  | missingHost
  /-- Transport security without verification of the peer is asked for. -/
  | unverified
  deriving DecidableEq, Repr

/-- The sentence for readers. -/
def UriFault.message : UriFault → String
  | unsupportedScheme scheme => "unsupported scheme '" ++ scheme ++ "'"
  | missingHost => "missing host"
  | unverified =>
      "validateSSL=false is not supported: server certificates are always verified; " ++
        "trust a self-signed server through caCertificate"

namespace GraphSettings

/-- The parts of an address: its scheme, or `bolt` if it has none, and what follows. -/
def addressParts (hostPort : String) : List Char × List Char :=
  let raw := Text.trim hostPort.toList
  (Text.splitOnce "://".toList raw).getD ("bolt".toList, raw)

/-- A scheme without its suffix, in lower case. -/
def baseScheme (scheme : List Char) : List Char :=
  Text.asciiLower (scheme.takeWhile (· ≠ '+'))

/-- The suffix that the flags ask for. -/
def tlsSuffix (settings : GraphSettings) : Except UriFault (List Char) :=
  match settings.encrypted, settings.validates with
  | false, _ => .ok []
  | true, true => .ok ['+', 's']
  | true, false => .error .unverified

/-- The URI of settings. -/
def uri (settings : GraphSettings) : Except UriFault String :=
  let (scheme, address) := addressParts settings.hostPort
  let base := baseScheme scheme
  if base ≠ "bolt".toList ∧ base ≠ "neo4j".toList then
    .error (.unsupportedScheme (String.ofList scheme))
  else if address.isEmpty then .error .missingHost
  else
    settings.tlsSuffix.map fun suffix =>
      String.ofList (base ++ suffix ++ "://".toList ++ address)

end GraphSettings

end Preflight
