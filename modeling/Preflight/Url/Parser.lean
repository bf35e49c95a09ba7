import Preflight.Url.Host

/-!
# Reading URLs

`Url.parse` reads a text the lenient way the web does: blanks around it and line
breaks inside it do not count, a web scheme may be followed by any number of
slashes in either direction, and characters that have no place in a part are
percent encoded instead of refused. Dots in a path are resolved.
-/

namespace Preflight

namespace Url

open UrlHost

/-! ## Sets of characters that are encoded in a part -/

/-- The characters encoded in a fragment. -/
def fragmentSet : List Char := [' ', '"', '<', '>', '`']

/-- The characters encoded in a path. -/
def pathSet : List Char := fragmentSet ++ ['#', '?', '\x7b', '\x7d']

/-- The characters encoded in a user name or password. -/
def userSet : List Char := pathSet ++ ['/', ':', ';', '=', '@', '[', '\\', ']', '^', '|']

/-- The characters encoded in a query. -/
def querySet (special : Bool) : List Char :=
  [' ', '"', '#', '<', '>'] ++ (if special then [Char.ofNat 39] else [])

/-! ## Pieces of the text -/

/-- The text without the blanks and controls around it and the line breaks in it. -/
def cleaned (cs : List Char) : List Char :=
  let isEdge (c : Char) : Bool := c.toNat ≤ 0x20
  let inner := ((cs.dropWhile isEdge).reverse.dropWhile isEdge).reverse
  inner.filter fun c => c ≠ '\t' && c ≠ '\n' && c ≠ '\r'

/-- A character of a scheme behind its first letter. -/
def isSchemeChar (c : Char) : Bool :=
  c.isAlphanum || c = '+' || c = '-' || c = '.'

/-- The scheme of a text, in lower case, and what follows the colon. -/
def scheme? (cs : List Char) : Option (String × List Char) :=
  match cs with
  | [] => none
  | first :: _ =>
      if !first.isAlpha then none
      else
        match cs.dropWhile isSchemeChar with
        | ':' :: rest =>
            some (String.ofList ((cs.takeWhile isSchemeChar).map Char.toLower), rest)
        | _ => none

/-- Does a character end the part of a URL that names the host? -/
def endsAuthority (special : Bool) (c : Char) : Bool :=
  c = '/' || c = '?' || c = '#' || (special && c = '\\')

/-- The parts before and behind the last sign `@`. -/
def splitUser (cs : List Char) : Option (List Char × List Char) :=
  match cs.reverse.dropWhile (· ≠ '@') with
  | [] => none
  | _ :: before => some (before.reverse, (cs.reverse.takeWhile (· ≠ '@')).reverse)

/-- The part of a host up to the colon before its port, and the rest from the colon on. A colon
between brackets belongs to the host. -/
def splitPort : Bool → List Char → List Char × List Char
  | _, [] => ([], [])
  | inside, c :: rest =>
      if c = ':' && !inside then ([], c :: rest)
      else
        let (host, port) :=
          splitPort (if c = '[' then true else if c = ']' then false else inside) rest
        (c :: host, port)

/-- A port, or none if there are no digits. -/
def readPort (cs : List Char) : Except UrlFault (Option Nat) :=
  if cs.any (!Text.isDecimalDigit ·) || 65535 < Text.natOfDigits cs then .error .badPort
  else .ok (if cs.isEmpty then none else some (Text.natOfDigits cs))

/-! ## Paths -/

/-- A segment with its encoded points decoded. -/
def pointForm (segment : List Char) : List Char :=
  (Text.replaceAll ['%', '2', 'e'] ['.'] (segment.map Char.toLower))

/-- Enter a segment of a path; `last` tells that no other follows. -/
def enterSegment (stack : List (List Char)) (segment : List Char) (last : Bool) :
    List (List Char) :=
  if pointForm segment = ['.', '.'] then
    if last then stack.dropLast ++ [[]] else stack.dropLast
  else if pointForm segment = ['.'] then if last then stack ++ [[]] else stack
  else stack ++ [percentEncode pathSet segment]

/-- Enter the segments of a path one after the other. -/
def enterSegments : List (List Char) → List (List Char) → List (List Char)
  | stack, [] => stack
  | stack, [segment] => enterSegment stack segment true
  | stack, segment :: rest => enterSegments (enterSegment stack segment false) rest

/-- The written form of a path that begins with a slash. -/
def resolvedPath (special : Bool) (cs : List Char) : String :=
  let cs := if special then cs.map fun c => if c = '\\' then '/' else c else cs
  let segments := (Text.splitAtChar '/' cs).drop 1
  String.ofList ((enterSegments [] segments).flatMap ('/' :: ·))

/-! ## The whole -/

/-- The path, the query and the fragment of a text. -/
def splitTail (cs : List Char) : List Char × Option (List Char) × Option (List Char) :=
  let head := cs.takeWhile (· ≠ '#')
  let fragment := match cs.dropWhile (· ≠ '#') with
    | [] => none
    | _ :: rest => some rest
  let query := match head.dropWhile (· ≠ '?') with
    | [] => none
    | _ :: rest => some rest
  (head.takeWhile (· ≠ '?'), query, fragment)

/-- Add the query and the fragment to a URL. -/
def withTail (url : Url) (query fragment : Option (List Char)) : Url :=
  { url with
    query := query.map fun q => String.ofList (percentEncode (querySet (isSpecial url.scheme)) q)
    fragment := fragment.map fun f => String.ofList (percentEncode fragmentSet f) }

/-- The user name and the password of the part before the sign `@`. -/
def user (cs : List Char) : String × Option String :=
  let name := String.ofList (percentEncode userSet (cs.takeWhile (· ≠ ':')))
  match cs.dropWhile (· ≠ ':') with
  | _ :: c :: rest => (name, some (String.ofList (percentEncode userSet (c :: rest))))
  | _ => (name, none)

/-- A URL whose scheme is followed by an authority. -/
def ofAuthority (scheme : String) (cs : List Char) : Except UrlFault Url := do
  let special := isSpecial scheme
  let authority := cs.takeWhile (!endsAuthority special ·)
  let rest := cs.dropWhile (!endsAuthority special ·)
  let (userPart, hostPart) := match splitUser authority with
    | some (before, behind) => (some before, behind)
    | none => (none, authority)
  let hasUser := match userPart with
    | some before => !before.isEmpty
    | none => false
  let (hostText, portText) := splitPort false hostPart
  if hostText.isEmpty && (special || hasUser || !portText.isEmpty ||
      (userPart.isSome && !rest.isEmpty)) then
    throw .emptyHost
  let host ← if special then webOf hostText else opaqueOf hostText
  let number ← readPort (portText.drop 1)
  let (username, password) := user (userPart.getD [])
  let (path, query, fragment) := splitTail rest
  let path := if path.isEmpty && special then ['/'] else path
  let url : Url :=
    { scheme, username, password
      host := if hostText.isEmpty then none else some host
      port := if number = defaultPort? scheme then none else number
      path := if path.isEmpty then "" else resolvedPath special path }
  return url.withTail query fragment

/-- A URL without a host. -/
def withoutHost (scheme : String) (cs : List Char) : Url :=
  let (path, query, fragment) := splitTail cs
  let path := match path with
    | '/' :: _ => resolvedPath (isSpecial scheme) path
    | _ => String.ofList (percentEncode [] path)
  ({ scheme, path } : Url).withTail query fragment

/-- A slash in either direction. -/
def isSlash (c : Char) : Bool := c = '/' || c = '\\'

/-- Read a URL. -/
def parse (text : String) : Except UrlFault Url :=
  match scheme? (cleaned text.toList) with
  | none => .error .noScheme
  | some (scheme, rest) =>
      if scheme = "file" then
        .ok (withoutHost scheme (if (rest.take 2).all isSlash then rest.drop 2 else rest))
      else if isSpecial scheme then ofAuthority scheme (rest.dropWhile isSlash)
      else
        match rest with
        | '/' :: '/' :: rest => ofAuthority scheme rest
        | _ => .ok (withoutHost scheme rest)

/-- The URL without its path and what follows it. -/
def origin (url : Url) : String :=
  { url with path := "", query := none, fragment := none : Url }.text

/-- The path up to and with its last slash. -/
def directory (url : Url) : String :=
  String.ofList (url.path.toList.reverse.dropWhile (· ≠ '/')).reverse

/-- The URL that a reference means on a page at `base`. -/
def follow (base : Url) (reference : String) : Except UrlFault Url :=
  let cs := cleaned reference.toList
  let text := String.ofList cs
  if (scheme? cs).isSome then parse text
  else
    match cs with
    | '/' :: '/' :: _ => parse (base.scheme ++ ":" ++ text)
    | '/' :: _ => parse (base.origin ++ text)
    | '?' :: _ => parse (base.origin ++ base.path ++ text)
    | '#' :: _ => parse ({ base with fragment := none : Url }.text ++ text)
    | [] => .ok { base with fragment := none }
    | _ => parse (base.origin ++ base.directory ++ text)

end Url

end Preflight
