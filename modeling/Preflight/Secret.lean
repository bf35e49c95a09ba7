import Preflight.Text.Search

/-!
# Secrets and redaction

A `Secret` is a credential. No printing function takes one: a rendering either
puts `Secret.mask` in its place or asks for `value` by name, at the point where
the credential is handed to a peer.

Free text that comes from outside, such as a server's message, may echo a
credential. `scrub` replaces every occurrence of the given secrets by the mask,
one secret after the other.

## Main results

* `scrub_empty` — an empty secret changes nothing.
-/

namespace Preflight

/-- A credential. -/
structure Secret where
  value : String
  deriving DecidableEq, Inhabited

/-- What is shown in the place of a credential. -/
def Secret.mask : String := "**********"

/-- Is there nothing to keep secret? -/
def Secret.isEmpty (secret : Secret) : Bool :=
  secret.value.isEmpty

/-- Replace the occurrences of one secret by the mask. -/
def scrubOne (text : String) (secret : Secret) : String :=
  if secret.isEmpty then text else Text.replaced text secret.value Secret.mask

/-- Replace the occurrences of each secret by the mask, in the order of the list. -/
def scrub (text : String) (secrets : List Secret) : String :=
  secrets.foldl scrubOne text

/-- Settings that can be shown without the credentials they hold. -/
class Redactable (α : Type) where
  /-- The rendering for readers, every credential masked. -/
  redacted : α → String
  /-- The credentials, in the order in which texts are scrubbed of them. -/
  secrets : α → List Secret

theorem scrub_empty (text : String) : scrub text [⟨""⟩] = text := by
  simp [scrub, scrubOne, Secret.isEmpty]

end Preflight
