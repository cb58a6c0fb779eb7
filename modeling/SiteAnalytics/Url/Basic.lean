import SiteAnalytics.Url.Host

/-!
# Addresses

Reading the address of a server from text, by the rules that browsers follow. They are generous:
blanks around the address and line breaks within it do not matter, any number of slashes or
backslashes may follow the scheme, segments of one or two points are resolved, and characters that
may not stand in an address are percent-encoded.

Only addresses of web servers are of use here. Those of other schemes are told apart from text that
is no address at all, but nothing of them is kept beside the query.
-/

namespace SiteAnalytics

/-- The address of something on a web server. -/
structure WebAddress where
  /-- The connection is encrypted. -/
  secure : Bool
  host : String
  /-- The port, if it is not that of the scheme. -/
  port : Option Nat
  /-- The path, which starts with a slash. -/
  path : List Char
  /-- The query, without the question mark in front. -/
  query : List Char
  deriving DecidableEq, Repr

/-- An address. -/
inductive Url
  | web (address : WebAddress)
  /-- An address of another scheme, and its query. -/
  | other (scheme : String) (query : List Char)
  deriving DecidableEq, Repr

namespace Url

/-- The query of an address, without the question mark in front. -/
def query : Url → List Char
  | web address => address.query
  | other _ query => query

/-! ### Characters -/

/-- The text without control characters and spaces at its ends, and without line breaks and tabs. -/
def clean (cs : List Char) : List Char :=
  let dropLow (cs : List Char) : List Char := cs.dropWhile fun c => c.toNat ≤ 0x20
  ((dropLow (dropLow cs).reverse).reverse).filter fun c => c != '\t' && c != '\n' && c != '\r'

/-- The character is percent-encoded everywhere. -/
def isControl (c : Char) : Bool := c.toNat < 0x20 || 0x7E < c.toNat

/-- The character is percent-encoded in a path. -/
def isEscapedInPath (c : Char) : Bool := isControl c || " \"#<>?^`\x7b\x7d".toList.contains c

/-- The character is percent-encoded in a query. -/
def isEscapedInQuery (c : Char) : Bool := isControl c || " \"#<>'".toList.contains c

/-- The character is percent-encoded in the query of an address whose scheme is not known. -/
def isEscapedInOtherQuery (c : Char) : Bool := isControl c || " \"#<>".toList.contains c

/-! ### Parts -/

/-- The scheme in lower case, and what follows the colon. -/
def scheme? (cs : List Char) : Option (List Char × List Char) :=
  let scheme := cs.takeWhile fun c => c.isAlphanum || c == '+' || c == '-' || c == '.'
  match scheme.head?, cs.drop scheme.length with
  | some first, ':' :: rest =>
    if first.isAlpha then some (scheme.map Char.toLower, rest) else none
  | _, _ => none

/-- Cuts a text before the first character that `stops` picks out. -/
def cutBefore (stops : Char → Bool) (cs : List Char) : List Char × List Char :=
  (cs.takeWhile fun c => !stops c, cs.dropWhile fun c => !stops c)

/-- A slash of either direction. -/
def isSlash (c : Char) : Bool := c == '/' || c == '\\'

/-- The character ends host and port in a known scheme. -/
def endsAuthority (c : Char) : Bool := isSlash c || c == '?' || c == '#'

/-- User and password in front of a host, if there are any, and the rest. -/
def cutUser (cs : List Char) : Option (List Char) × List Char :=
  if cs.contains '@' then
    let host := (cs.reverse.takeWhile (· != '@')).reverse
    (some (cs.take (cs.length - host.length - 1)), host)
  else (none, cs)

/-- The text before a colon that stands in no brackets, and the text after it, if there is one. -/
def cutPort (inBrackets : Bool) : List Char → List Char × Option (List Char)
  | [] => ([], none)
  | c :: rest =>
    if c = ':' && !inBrackets then ([], some rest)
    else
      let (host, port) := cutPort (c = '[' || (inBrackets && c != ']')) rest
      (c :: host, port)

/-- Reads a port. An empty one is none. -/
def port? : Option (List Char) → Option (Option Nat)
  | none | some [] => some none
  | some digits => (Host.number? 10 digits).bind fun n => if n < 65536 then some (some n) else none

/-! ### Paths and queries -/

/-- The segment stands for the place itself. -/
def isHere (segment : List Char) : Bool :=
  [".", "%2e"].contains (String.ofList (segment.map Char.toLower))

/-- The segment stands for the place above. -/
def isAbove (segment : List Char) : Bool :=
  ["..", ".%2e", "%2e.", "%2e%2e"].contains (String.ofList (segment.map Char.toLower))

/-- Resolves segments on the way `back`, which is given from the last to the first. -/
def resolve (back : List (List Char)) : List (List Char) → List (List Char)
  | [] => back
  | [last] =>
    if isAbove last then [] :: back.tail
    else if isHere last then [] :: back
    else Percent.encode isEscapedInPath last :: back
  | segment :: next :: rest =>
    if isAbove segment then resolve back.tail (next :: rest)
    else if isHere segment then resolve back (next :: rest)
    else resolve (Percent.encode isEscapedInPath segment :: back) (next :: rest)

/-- The path that a text stands for. -/
def pathOf (cs : List Char) : List Char :=
  let slashed := cs.map fun c => if isSlash c then '/' else c
  let segments := Text.splitAt '/' (if slashed.head? = some '/' then slashed.drop 1 else slashed)
  (resolve [] segments).reverse.flatMap fun segment => '/' :: segment

/-- The query that a text stands for; the text may start with a question mark. -/
def queryOf (cs : List Char) : List Char :=
  Percent.encode isEscapedInQuery (cs.drop 1)

/-- The query of what follows a scheme: it starts after the first question mark, and ends where the
fragment starts. The characters that `escaped` picks out are percent-encoded. -/
def queryWithin (escaped : Char → Bool) (cs : List Char) : List Char :=
  let (place, _) := cutBefore (· == '#') cs
  Percent.encode escaped ((cutBefore (· == '?') place).2.drop 1)

/-! ### Addresses -/

/-- Reads what follows the scheme of a web address. -/
def web? (secure : Bool) (cs : List Char) : Option WebAddress := do
  let (authority, rest) := cutBefore endsAuthority (cs.dropWhile isSlash)
  let (host, port) := cutPort false (cutUser authority).2
  let host ← Host.name? host
  let port ← port? port
  let (place, _) := cutBefore (· == '#') rest
  let (path, query) := cutBefore (· == '?') place
  return { secure, host, port, path := pathOf path, query := queryOf query }

/-- Accepts what follows the scheme of a file. -/
def isFile (cs : List Char) : Bool :=
  match cs with
  | a :: b :: rest =>
    if isSlash a && isSlash b then
      let (host, _) := cutBefore endsAuthority rest
      match host with
      | [] => true
      | [c, d] => (c.isAlpha && (d == ':' || d == '|')) || (Host.name? host).isSome
      | _ => (Host.name? host).isSome
    else true
  | _ => true

/-- Accepts what follows any other scheme. -/
def isOther (cs : List Char) : Bool :=
  match cs with
  | '/' :: '/' :: rest =>
    let (authority, _) := cutBefore (fun c => c == '/' || c == '?' || c == '#') rest
    let (user, place) := cutUser authority
    let (host, port) := cutPort false place
    if host.isEmpty then user.isNone && port.isNone
    else (Host.other? host).isSome && (port? port).isSome
  | _ => true

/-- Reads an address. -/
def parse? (s : String) : Option Url := do
  let (scheme, rest) ← scheme? (clean s.toList)
  let scheme := String.ofList scheme
  match scheme with
  | "http" => (web? false rest).map .web
  | "https" => (web? true rest).map .web
  | "ws" | "wss" | "ftp" => (web? false rest).map fun a => .other scheme a.query
  | "file" => if isFile rest then some (.other scheme (queryWithin isEscapedInQuery rest)) else none
  | _ =>
    if isOther rest then some (.other scheme (queryWithin isEscapedInOtherQuery rest)) else none

end Url

end SiteAnalytics
