import TabletopBot.Http.Host

/-! # Addresses

The absolute `http` and `https` addresses that requests can be sent to. Reading an address settles its
spelling: the scheme in lower case, the host settled, the usual port of the scheme left out, at least one
slash as the path, dot segments resolved, characters that may not stand in path and query percent-encoded.
The fragment is not sent and is dropped, and so is what stands before an at sign in the authority.
-/

namespace TabletopBot.Http

inductive Scheme where
  | http
  | https
deriving DecidableEq, Repr

namespace Scheme

def start : Scheme → List Char
  | .http => "http:".toList
  | .https => "https:".toList

def usualPort : Scheme → Nat
  | .http => 80
  | .https => 443

end Scheme

/-- An absolute address in its settled spelling. -/
structure Url where
  scheme : Scheme
  host : List Char
  port : Option Nat
  /-- The path, starting with a slash. -/
  path : List Char
  query : Option (List Char)
deriving DecidableEq, Repr

namespace Url

def keepsInPath (char : Char) : Bool :=
  32 < char.toNat && char.toNat < 127 && !("\"#<>?`".toList.contains char) && char != '\x7b' &&
    char != '\x7d'

def keepsInQuery (char : Char) : Bool :=
  32 < char.toNat && char.toNat < 127 && !("\"#<>'".toList.contains char)

/-- The text without white space and controls at its ends and without tabs and line ends. -/
def strip (chars : List Char) : List Char :=
  let isOuter (char : Char) : Bool := char.toNat ≤ 32
  let inner := ((chars.dropWhile isOuter).reverse.dropWhile isOuter).reverse
  inner.filter fun char => char != '\t' && char != '\n' && char != '\r'

/-- What is behind a start that is compared without regard to ASCII case. -/
def behind? : List Char → List Char → Option (List Char)
  | [], chars => some chars
  | _ :: _, [] => none
  | expected :: more, char :: chars =>
    if expected = char.toLower then behind? more chars else none

/-- Slashes in either direction separate the parts of an address. -/
def isSlash (char : Char) : Bool := char == '/' || char == '\\'

def endsAuthority (char : Char) : Bool := isSlash char || char == '?' || char == '#'

/-- What is behind the last at sign. -/
def behindUser (authority : List Char) : List Char :=
  (authority.reverse.takeWhile (· != '@')).reverse

/-- A port behind a host; an empty one counts as none, and so does the usual one. -/
def port? (scheme : Scheme) (chars : List Char) : Option (Option Nat) :=
  match chars with
  | [] => some none
  | [':'] => some none
  | ':' :: digits =>
    (Text.natUpTo? 65535 digits).map fun port => if port = scheme.usualPort then none else some port
  | _ => none

/-- A host with its port. The colon in front of the port is the first one that is not in brackets. -/
def host? [AddressRules] (scheme : Scheme) (authority : List Char) :
    Option (List Char × Option Nat) := do
  let opened := authority.head? = some '['
  let inner := if opened then authority.takeWhile (· != ']') else []
  let outer := (authority.drop inner.length).takeWhile (· != ':')
  let host ← Host.parse? (inner ++ outer)
  let port ← port? scheme (authority.drop (inner.length + outer.length))
  some (host, port)

/-- The segments of a path behind its first slash. -/
def segments : List Char → List (List Char)
  | [] => [[]]
  | char :: rest =>
    if isSlash char then [] :: segments rest
    else
      match segments rest with
      | [] => [[char]]
      | segment :: others => (char :: segment) :: others

/-- A segment that stands for the place itself. -/
def isSingleDot (segment : List Char) : Bool :=
  let lower := segment.map Char.toLower
  lower == ".".toList || lower == "%2e".toList

/-- A segment that stands for the place above. -/
def isDoubleDot (segment : List Char) : Bool :=
  let lower := segment.map Char.toLower
  lower == "..".toList || lower == ".%2e".toList || lower == "%2e.".toList ||
    lower == "%2e%2e".toList

/-- A letter with a colon or a bar, as drives are written. -/
def isDriveLetter : List Char → Bool
  | [letter, mark] => letter.isAlpha && (mark == ':' || mark == '|')
  | _ => false

/-- The segments of the place above, last first. Nothing is above a drive. -/
def above : List (List Char) → List (List Char)
  | [] => []
  | segment :: before => if isDriveLetter segment then segment :: before else before

/-- Resolves dot segments against the segments before, which are given last first. A dot segment at the
end leaves an empty segment. -/
def resolve : List (List Char) → List (List Char) → List (List Char)
  | before, [] => before.reverse
  | before, [last] =>
    if isDoubleDot last then ([] :: above before).reverse
    else if isSingleDot last then ([] :: before).reverse
    else (last :: before).reverse
  | before, segment :: rest =>
    if isDoubleDot segment then resolve (above before) rest
    else if isSingleDot segment then resolve before rest
    else resolve (segment :: before) rest

def settlePath (chars : List Char) : List Char :=
  let body :=
    match chars with
    | char :: rest => if isSlash char then rest else chars
    | [] => []
  (resolve [] (segments body)).flatMap fun segment => '/' :: percentEncode keepsInPath segment

def scheme? (chars : List Char) : Option (Scheme × List Char) :=
  ((behind? Scheme.http.start chars).map (Scheme.http, ·)).or
    ((behind? Scheme.https.start chars).map (Scheme.https, ·))

def parse? [AddressRules] (text : String) : Option Url := do
  let (scheme, rest) ← scheme? (strip text.toList)
  let start := rest.dropWhile isSlash
  let authority := start.takeWhile (!endsAuthority ·)
  let (host, port) ← host? scheme (behindUser authority)
  let location := (start.drop authority.length).takeWhile (· != '#')
  let path := location.takeWhile (· != '?')
  let query :=
    match location.drop path.length with
    | '?' :: chars => some (percentEncode keepsInQuery chars)
    | _ => none
  some { scheme, host, port, path := settlePath path, query }

def withForm (url : Url) (pairs : List (String × String)) : Url :=
  let form := Form.encode pairs
  { url with
    query := some (match url.query with
      | none => form
      | some [] => form
      | some query => query ++ '&' :: form) }

def render (url : Url) : String :=
  let port := url.port.elim [] fun port => ':' :: Text.decimalDigits port
  let query := url.query.elim [] ('?' :: ·)
  String.ofList (url.scheme.start ++ "//".toList ++ url.host ++ port ++ url.path ++ query)

/-- Both addresses are at one place: they have one host and lead to one port of it. -/
def SamePlace (url other : Url) : Prop :=
  url.host = other.host ∧
    url.port.getD url.scheme.usualPort = other.port.getD other.scheme.usualPort

instance (url other : Url) : Decidable (url.SamePlace other) := inferInstanceAs (Decidable (_ ∧ _))

/-- The length of the longest address that a request can be sent to. -/
def maxLength : Nat := 65534

def isSendable (url : Url) : Bool := url.render.length ≤ maxLength

end Url

end TabletopBot.Http
