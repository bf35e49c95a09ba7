/-!
# Base 64

Three bytes are written as four characters of an alphabet of 64; one or two bytes
left at the end are filled up with equals signs.
-/

namespace Preflight.Text

/-- The character of a six-bit number. -/
def base64Char (n : Nat) : Char :=
  if n < 26 then Char.ofNat (65 + n)
  else if n < 52 then Char.ofNat (71 + n)
  else if n < 62 then Char.ofNat (n - 4)
  else if n = 62 then '+' else '/'

/-- The four characters of three bytes. -/
def base64Group (a b c : Nat) : List Char :=
  let n := (a * 256 + b) * 256 + c
  [n / 262144, n / 4096 % 64, n / 64 % 64, n % 64].map base64Char

/-- Write bytes in base 64. -/
def base64 : List UInt8 → List Char
  | [] => []
  | [a] => (base64Group a.toNat 0 0).take 2 ++ ['=', '=']
  | [a, b] => (base64Group a.toNat b.toNat 0).take 3 ++ ['=']
  | a :: b :: c :: rest => base64Group a.toNat b.toNat c.toNat ++ base64 rest

end Preflight.Text
