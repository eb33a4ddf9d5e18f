import RegistryBench.Url.Host
import RegistryBench.Url.Path

/-!
# URLs

The URLs of requests, in their canonical form: scheme and host in small letters, addresses in one
way of writing, no port where it is the usual one, a path without `.` and `..` components, and
other characters than printable ASCII escaped. Two requests go to the same place when their
canonical URLs are equal.
-/

namespace RegistryBench

/-- Who serves a URL. -/
structure Url.Authority where
  /-- The user information before the host, or nothing. -/
  userInfo : String
  /-- The host. -/
  host : Url.Host
  /-- The port, where it is not the usual one of the scheme. -/
  port : Option Nat
deriving DecidableEq

/-- The URL of a request. -/
structure Url where
  /-- The scheme. -/
  scheme : Url.Scheme
  /-- Who serves the URL, where it says so. -/
  authority : Option Url.Authority
  /-- The path. -/
  path : Url.Path
  /-- What follows the question mark. -/
  query : Option String
  /-- What follows the number sign. -/
  fragment : Option String
deriving DecidableEq

namespace Url

/-! ### Writing -/

/-- The text of an authority. -/
def Authority.toText (authority : Authority) : String :=
  (if authority.userInfo = "" then "" else authority.userInfo ++ "@") ++
    authority.host.toText ++
    ((authority.port.map fun port => ":" ++ port.repr).getD "")

/-- The text between a scheme and a path. Without an authority, a path that begins with two slashes
is kept from being read as one. -/
def leadText (url : Url) : String :=
  match url.authority with
  | some authority => "//" ++ authority.toText
  | none => if url.path.isDoubled then "/." else ""

/-- The text of a URL. -/
def toText (url : Url) : String :=
  url.scheme.name ++ ":" ++ url.leadText ++ url.path.toText ++
    ((url.query.map fun query => "?" ++ query).getD "") ++
    ((url.fragment.map fun fragment => "#" ++ fragment).getD "")

/-! ### Authorities -/

namespace Authority

/-- The authority of a file on no host. -/
def unnamed : Authority := ⟨"", .empty, none⟩

/-- The number that digits denote, if it is one of a port. -/
def portNumber? (digits : List Char) : Option Nat :=
  (numeral? 10 digits).filter (· < 65536)

/-- The user information in a text, without an empty password. -/
def userInfoOf (text : List Char) : String :=
  let name := escape userInfoEscapes (text.takeWhile (· != ':'))
  let password := escape userInfoEscapes ((text.dropWhile (· != ':')).drop 1)
  if password = "" then name else name ++ ":" ++ password

/-- The user information in an authority, if it has one, and the rest. The last `@` ends it. -/
def splitUserInfo (text : List Char) : String × List Char :=
  if '@' ∈ text then
    let reversed := text.reverse
    (userInfoOf ((reversed.dropWhile (· != '@')).drop 1).reverse,
      (reversed.takeWhile (· != '@')).reverse)
  else ("", text)

/-- The host in an authority without user information, and what follows it. A host in brackets may
hold colons. -/
def splitHost (text : List Char) : List Char × List Char :=
  if text.head? = some '[' then
    let inside := text.takeWhile (· != ']')
    let rest := text.dropWhile (· != ']')
    (inside ++ rest.take 1, rest.drop 1)
  else (text.takeWhile (· != ':'), text.dropWhile (· != ':'))

/-- The port that digits denote: none when there are none, or it is the usual one. -/
def portOf? (scheme : Scheme) (digits : List Char) : Option (Option Nat) :=
  if digits = [] then some none
  else
    (portNumber? digits).map fun port => if scheme.usualPort? = some port then none else some port

/-- The port that follows a host, and what follows the port. A backslash ends it. -/
def portAt? (scheme : Scheme) : List Char → Option (Option Nat × List Char)
  | [] => some (none, [])
  | ':' :: rest =>
    (portOf? scheme (rest.takeWhile (· != '\\'))).map fun port =>
      (port, rest.dropWhile (· != '\\'))
  | _ => none

/-- Read an authority, with what follows its port. An empty host has neither user information nor
a port, and a lone `@` may stand before it only at the end of the URL: `isLast` says that the
authority ends the URL. -/
def parse? (scheme : Scheme) (isLast : Bool) (text : List Char) :
    Option (Authority × List Char) := do
  let (userInfo, rest) := splitUserInfo text
  let (host, rest) := splitHost rest
  let host ← Host.parse? scheme.kind host
  guard (host ≠ .empty ∨ (userInfo = "" ∧ rest = [] ∧ (text ≠ ['@'] ∨ isLast)))
  let (port, rest) ← portAt? scheme rest
  return (⟨userInfo, host, port⟩, rest)

/-- Read the host of a file. What names a drive is none. -/
def ofFile? (text : List Char) : Option Authority := do
  if text = [] ∨ Path.isDrive text then return .unnamed
  let host ← Host.parse? .file text
  return if host = .name "localhost" then .unnamed else ⟨"", host, none⟩

end Authority

/-! ### Reading -/

/-- An authority at the start of a text, and what follows it. -/
def splitAuthority (kind : Kind) (text : List Char) : List Char × List Char :=
  (text.takeWhile fun c => !kind.isSlash c, text.dropWhile fun c => !kind.isSlash c)

/-- Who serves a URL of the network, and its path, from the text after the scheme. -/
def networkPlace? (scheme : Scheme) (text : List Char) : Option (Option Authority × Path) := do
  let (authority, path) := splitAuthority .network (text.dropWhile Kind.network.isSlash)
  let (authority, _) ← Authority.parse? scheme false authority
  return (authority, .ofText .network path)

/-- The host and the path of a file, from the text after two slashes. A path that begins with a
drive is on no host. Where no host is named, the slash that follows counts as an empty component,
so that a drive after it is not the first. -/
def hostedPlace? (text : List Char) : Option (Authority × Path) := do
  let (host, path) := splitAuthority .file text
  let host := kept host
  let authority ← Authority.ofFile? host
  if authority = .unnamed then
    return (.unnamed, (Path.Trail.ofText .file (if Path.isDrive host then text else path)).path)
  else
    let trail := Path.Trail.ofText .file ((Kind.file.afterSlash? path).getD path)
    return (if trail.isOnDrive then .unnamed else authority, trail.path)

/-- The host and the path of a file, from the text after the scheme. -/
def filePlace? (text : List Char) : Option (Option Authority × Path) := do
  let (authority, path) ←
    match (Kind.file.afterSlash? text).bind Kind.file.afterSlash? with
    | some rest => hostedPlace? rest
    | none => pure (.unnamed, .ofText .file text)
  return (authority, path.withoutMargin)

/-- Who serves a URL of another scheme, and its path: two slashes lead to an authority, one leads
to a path, and all else is the scheme's own. The URL `isBare` when neither query nor fragment
follow. -/
def otherPlace? (scheme : Scheme) (isBare : Bool) (text : List Char) :
    Option (Option Authority × Path) := do
  match text with
  | '/' :: '/' :: rest =>
    let (authority, path) := splitAuthority .other rest
    let (authority, rest) ← Authority.parse? scheme (isBare && path.isEmpty) authority
    let path := if rest = [] then path else '/' :: rest ++ path
    return (authority, if path = [] then .components [] else .ofText .other path)
  | '/' :: _ => return (none, .ofText .other text)
  | _ => return (none, .plain (escape [] text))

/-- Who serves the URL with that scheme and text after it, and the path. The URL `isBare` when
neither query nor fragment follow. -/
def place? (scheme : Scheme) (isBare : Bool) (text : List Char) :
    Option (Option Authority × Path) :=
  match scheme.kind with
  | .network => networkPlace? scheme (kept text)
  | .file => filePlace? text
  | .other => otherPlace? scheme isBare (kept text)

/-- The text between the start and the first of some characters, and what follows. -/
def cutAt (sep : Char) (text : List Char) : List Char × Option (List Char) :=
  match text.dropWhile (· != sep) with
  | [] => (text, none)
  | _ :: after => (text.takeWhile (· != sep), some after)

/-- The characters that the query of a URL escapes. -/
def queryEscapesOf (kind : Kind) : List Char :=
  if kind.isSpecial then queryEscapes ++ ['\x27'] else queryEscapes

/-- Read a URL. -/
def parse? (text : String) : Option Url := do
  let (scheme, rest) ← Scheme.cut? (withoutMargins text.toList)
  let (rest, fragment) := cutAt '#' rest
  let (rest, query) := cutAt '?' rest
  let (authority, path) ← place? scheme (query.isNone && fragment.isNone) rest
  return {
    scheme
    authority
    path
    query := query.map fun query => escape (queryEscapesOf scheme.kind) (kept query)
    fragment := fragment.map fun fragment => escape fragmentEscapes (kept fragment) }

/-- The canonical text of a URL. -/
def canonical? (text : String) : Option String :=
  (parse? text).map toText

end Url

end RegistryBench
