import Codebook.Network.HostName

/-!
# Addresses of remote catalogs

A source that starts with `http://` or `https://` is remote. `Url.parse` reads the rest of it as
host, service, path, query and fragment, and `Url.toText` writes them in the form that requests
use: the host in the one form that `HostName` gives it, no number for the service where it is the
usual one, no dots among the segments of the path, and what may not stand in an address as
hexadecimal bytes. Names of users are not part of it.
-/

namespace Codebook

/-- The two ways to ask for a remote catalog. -/
inductive Scheme where
  | http
  | https
  deriving DecidableEq, Repr

namespace Scheme

/-- The scheme as it is written. -/
def name : Scheme → Text
  | http => "http".toList
  | https => "https".toList

/-- The number of the service that is meant where none is written. -/
def defaultService : Scheme → Nat
  | http => 80
  | https => 443

/-- How a source with this scheme starts. -/
def opening (scheme : Scheme) : Text := scheme.name ++ "://".toList

/-- The scheme that a source starts with, letter by letter. -/
def ofSource? (source : Text) : Option Scheme :=
  if http.opening.isPrefixOf source then some http
  else if https.opening.isPrefixOf source then some https
  else none

end Scheme

/-- Where a request goes. Every part is written as it is sent. -/
structure Url where
  scheme : Scheme
  host : Text
  /-- The number of the service on the host, where it is not the usual one. -/
  service? : Option Nat
  path : List Text
  query? : Option Text
  fragment? : Option Text
  deriving DecidableEq, Repr

namespace Url

/-! ## Percent signs -/

/-- A byte in two hexadecimal digits behind a percent sign. -/
def percentByte (b : UInt8) : Text :=
  ['%', (Nat.digitChar (b.toNat / 16)).toUpper, (Nat.digitChar (b.toNat % 16)).toUpper]

/-- A text, with bytes for everything that is not printable ASCII and for some more. -/
def percentEncode (reserved : List Char) (t : Text) : Text :=
  t.flatMap fun c =>
    if c.toNat ≤ 0x20 ∨ 0x7F ≤ c.toNat ∨ c ∈ reserved then
      (Utf8.encodeChar c).flatMap percentByte
    else [c]

/-- What is not written as it is in a fragment. -/
def fragmentReserved : List Char := ['"', '<', '>', '`']

/-- What is not written as it is in a path. -/
def pathReserved : List Char := fragmentReserved ++ ['#', '?', '{', '}']

/-- What is not written as it is in a query. -/
def queryReserved : List Char := ['"', '<', '>', '#', '\'']

/-! ## Path -/

/-- Whether a segment is a single dot, which stays where it is. -/
def isDot (segment : Text) : Bool :=
  let lower := segment.map Char.toLower
  lower == ['.'] || lower == "%2e".toList

/-- Whether a segment is two dots, which go up. -/
def isDoubleDot (segment : Text) : Bool :=
  let lower := segment.map Char.toLower
  lower == "..".toList || lower == ".%2e".toList || lower == "%2e.".toList
    || lower == "%2e%2e".toList

/-- The segments behind the ones that were passed, which come last one first. At the end of a path
a dot leaves an empty segment, so that the path still ends in a slash. -/
def resolve (passed : List Text) : List Text → List Text
  | [] => passed.reverse
  | [last] =>
    if isDoubleDot last then (passed.tail.reverse) ++ [[]]
    else if isDot last then passed.reverse ++ [[]]
    else passed.reverse ++ [last]
  | segment :: next :: rest =>
    if isDoubleDot segment then resolve passed.tail (next :: rest)
    else if isDot segment then resolve passed (next :: rest)
    else resolve (segment :: passed) (next :: rest)

/-- Whether a character separates segments. -/
def isSlash (c : Char) : Bool := c == '/' || c == '\\'

/-- The segments of a path, which may start with a slash. -/
def readPath (t : Text) : List Text :=
  let slashed := t.map fun c => if isSlash c then '/' else c
  let relative := if slashed.head? == some '/' then slashed.drop 1 else slashed
  resolve [] ((Text.splitOn ['/'] relative).map (percentEncode pathReserved))

/-! ## Host and service -/

/-- The service behind a host, if there can be such a service: none, or one that is not the usual
one. -/
def readService? (scheme : Scheme) : Text → Option (Option Nat)
  | [] => some none
  | ':' :: digits =>
    if digits.all Char.isDigit then
      let service := digits.foldl (fun n c => n * 10 + (c.toNat - '0'.toNat)) 0
      if service < 0x10000 then
        some (if digits = [] ∨ service = scheme.defaultService then none else some service)
      else none
    else none
  | _ => none

/-- The host and its service, if there can be such a host. -/
def readHost? (scheme : Scheme) (t : Text) : Option (Text × Option Nat) :=
  match t with
  | '[' :: rest => do
    let (number, behind) ← Text.cut? [']'] rest
    return (← HostName.readNumber? number, ← readService? scheme behind)
  | _ => do
    let host := t.takeWhile (· != ':')
    return (← HostName.read? host, ← readService? scheme (t.drop host.length))

/-! ## Reading and writing -/

/-- What stands before the first of some characters, and the rest from there on. -/
def before (stops : List Char) (t : Text) : Text × Text :=
  (t.takeWhile (· ∉ stops), t.dropWhile (· ∉ stops))

/-- What stands behind the last `@` of a host with a user. -/
def withoutUser (authority : Text) : Text :=
  (authority.reverse.takeWhile (· != '@')).reverse

/-- The address that a remote source gives, if there can be such an address. -/
def parse (scheme : Scheme) (source : Text) : Option Url := do
  let visible := (source.reverse.dropWhile (·.toNat ≤ 0x20)).reverse
  let kept := visible.filter (· ∉ ['\t', '\n', '\r'])
  let (authority, rest) :=
    before ['/', '\\', '?', '#'] ((kept.drop scheme.opening.length).dropWhile isSlash)
  let (host, service?) ← readHost? scheme (withoutUser authority)
  let (front, fragment) := before ['#'] rest
  let (path, query) := before ['?'] front
  return {
    scheme, host, service?
    path := readPath path
    query? := if query = [] then none else some (percentEncode queryReserved (query.drop 1))
    fragment? :=
      if fragment = [] then none else some (percentEncode fragmentReserved (fragment.drop 1)) }

/-- A part that is there, behind its sign. -/
def optional (sign : Char) : Option Text → Text
  | none => []
  | some t => sign :: t

/-- The address as it is shown. -/
def toText (url : Url) : Text :=
  url.scheme.opening ++ url.host ++ optional ':' (url.service?.map Text.ofNat)
    ++ url.path.flatMap (fun segment => '/' :: segment)
    ++ optional '?' url.query? ++ optional '#' url.fragment?

end Url

end Codebook
