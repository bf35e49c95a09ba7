import Preflight.Url

/-!
# Reading hosts

The host of a web URL is a domain in lower case or an address in numbers; a
domain whose last label is a number has to be an IPv4 address, whose numbers may
be written in base 8, 10 or 16. The host of any other URL is *opaque*: it is
taken as it is, apart from characters that no host may contain. An IPv6 address
stands between brackets in both.
-/

namespace Preflight

namespace UrlHost

/-! ## Percent encoding -/

/-- A byte as a percent sign and two digits in upper case. -/
def percentByte (byte : UInt8) : List Char :=
  let n := byte.toNat
  ['%', (Text.digitChar (n / 16)).toUpper, (Text.digitChar (n % 16)).toUpper]

/-- The bytes of a character in percent encoding. -/
def percentChar (c : Char) : List Char :=
  (String.utf8EncodeChar c).flatMap percentByte

/-- A control character, or one beyond ASCII; these are encoded everywhere. -/
def isControlOrHigh (c : Char) : Bool := c.toNat < 0x20 || 0x7E < c.toNat

/-- Encode the controls, the characters beyond ASCII and those of a set. -/
def percentEncode (set : List Char) (cs : List Char) : List Char :=
  cs.flatMap fun c => if isControlOrHigh c || set.contains c then percentChar c else [c]

/-- Decode percent encoding of ASCII characters; anything else stays as it is. -/
def percentDecode : Nat → List Char → List Char
  | _, [] => []
  | pass + 1, _ :: rest => percentDecode pass rest
  | 0, '%' :: rest =>
      match rest with
      | a :: b :: _ =>
          match Text.hexValue? a, Text.hexValue? b with
          | some x, some y =>
              if x < 8 then Char.ofNat (x * 16 + y) :: percentDecode 2 rest
              else '%' :: percentDecode 0 rest
          | _, _ => '%' :: percentDecode 0 rest
      | _ => '%' :: percentDecode 0 rest
  | 0, c :: rest => c :: percentDecode 0 rest

/-! ## IPv4 -/

/-- The digits of a number with its base taken off, and the base. -/
def numberBase : List Char → List Char × Nat
  | '0' :: 'x' :: rest => (rest, 16)
  | '0' :: 'X' :: rest => (rest, 16)
  | '0' :: d :: rest => (d :: rest, 8)
  | cs => (cs, 10)

/-- A number in base 8, 10 or 16; a base without digits is zero. -/
def ipv4Number? (cs : List Char) : Option Nat :=
  if cs.isEmpty then none
  else
    let (digits, base) := numberBase cs
    digits.foldl
      (fun value c =>
        match value, Text.hexValue? c with
        | some n, some d => if d < base then some (n * base + d) else none
        | _, _ => none)
      (some 0)

/-- The labels of a domain; one point at the end is allowed. -/
def labels (cs : List Char) : List (List Char) :=
  let parts := Text.splitAtChar '.' cs
  if parts.getLast? = some [] ∧ 1 < parts.length then parts.dropLast else parts

/-- Does a domain end in a number? -/
def endsInNumber (cs : List Char) : Bool :=
  match (labels cs).getLast? with
  | none => false
  | some last =>
      (!last.isEmpty && last.all Text.isDecimalDigit) ||
        ((numberBase last).2 = 16 && (ipv4Number? last).isSome)

/-- The address whose last number fills the places that the others leave. -/
def ipv4OfNumbers? (numbers : List Nat) : Option Nat :=
  let count := numbers.length
  match numbers.getLast? with
  | none => none
  | some last =>
      let first := numbers.dropLast
      if 4 < count || first.any (255 < ·) || Nat.pow 256 (5 - count) ≤ last then none
      else
        some (first.zipIdx.foldl (fun sum (n, i) => sum + n * Nat.pow 256 (3 - i)) last)

/-- An IPv4 address. -/
def ipv4? (cs : List Char) : Option Nat :=
  ((labels cs).mapM ipv4Number?).bind ipv4OfNumbers?

/-! ## IPv6 -/

/-- One group of hexadecimal digits. -/
def ipv6Group? (cs : List Char) : Option Nat :=
  if cs.isEmpty || 4 < cs.length then none
  else (cs.mapM Text.hexValue?).map (·.foldl (fun n d => n * 16 + d) 0)

/-- A decimal number of one byte without a leading zero. -/
def byte? (cs : List Char) : Option Nat :=
  if cs.length = 1 || cs.head? ≠ some '0' then (Text.natOfDigits? cs).filter (· < 256) else none

/-- The two groups of an IPv4 address in its plain form. -/
def embeddedIpv4? (cs : List Char) : Option (List Nat) :=
  match (Text.splitAtChar '.' cs).mapM byte? with
  | some [a, b, c, d] => some [a * 256 + b, c * 256 + d]
  | _ => none

/-- The groups between colons; the last piece may be an IPv4 address where `last` says so. -/
def ipv6Pieces? (last : Bool) : List (List Char) → Option (List Nat)
  | [] => some []
  | [piece] =>
      if last && piece.contains '.' then embeddedIpv4? piece
      else (ipv6Group? piece).map fun g => [g]
  | piece :: rest => do
      let g ← ipv6Group? piece
      let gs ← ipv6Pieces? last rest
      return g :: gs

/-- The groups of one side of a double colon, which may be empty. -/
def ipv6Side? (last : Bool) (cs : List Char) : Option (List Nat) :=
  if cs.isEmpty then some [] else ipv6Pieces? last (Text.splitAtChar ':' cs)

/-- An IPv6 address. -/
def ipv6? (cs : List Char) : Option (List Nat) :=
  match Text.splitOnce [':', ':'] cs with
  | none => (ipv6Pieces? true (Text.splitAtChar ':' cs)).filter (·.length = 8)
  | some (before, after) => do
      let left ← ipv6Side? false before
      let right ← ipv6Side? true after
      if 7 < left.length + right.length then none
      else some (left ++ List.replicate (8 - left.length - right.length) 0 ++ right)

/-- An address between brackets. -/
def bracketed (cs : List Char) : Except UrlFault UrlHost :=
  if cs.getLast? ≠ some ']' then .error .badIpv6
  else
    match ipv6? (cs.drop 1).dropLast with
    | some groups => .ok (ipv6 groups)
    | none => .error .badIpv6

/-! ## Hosts -/

/-- The characters that no host contains. -/
def forbidden : List Char :=
  ['\u0000', '\t', '\n', '\r', ' ', '#', '/', ':', '<', '>', '?', '@', '[', '\\', ']', '^', '|']

/-- The host of a URL that is not of the web. -/
def opaqueOf (cs : List Char) : Except UrlFault UrlHost :=
  if cs.head? = some '[' then bracketed cs
  else if cs.any forbidden.contains then .error .badDomain
  else .ok (domain (String.ofList (percentEncode [] cs)))

/-- The host of a URL of the web. -/
def webOf (cs : List Char) : Except UrlFault UrlHost :=
  if cs.head? = some '[' then bracketed cs
  else
    let name := (percentDecode 0 cs).map Char.toLower
    if name.isEmpty then .error .emptyHost
    else if name.any fun c => forbidden.contains c || c = '%' || c.toNat < 0x20 || c.toNat = 0x7F
    then .error .badDomain
    else if endsInNumber name then
      match ipv4? name with
      | some address => .ok (ipv4 address)
      | none => .error .badIpv4
    else .ok (domain (String.ofList name))

end UrlHost

end Preflight
