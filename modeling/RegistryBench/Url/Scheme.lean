import RegistryBench.Url.Margin

/-!
# Schemes

The scheme of a URL says how the rest of it is read, and which port is the usual one.
-/

namespace RegistryBench.Url

/-- How what follows a scheme is read. -/
inductive Kind where
  /-- A host of the network, then a path. -/
  | network
  /-- A path on a host, which need not be named. -/
  | file
  /-- What the scheme itself lays down. -/
  | other
deriving DecidableEq

/-- Whether the rules of hosts and paths hold for all URLs of the kind. -/
def Kind.isSpecial : Kind → Bool
  | .network | .file => true
  | .other => false

/-- Whether a character stands between components of a path. -/
def Kind.isSlash (kind : Kind) (c : Char) : Bool :=
  c == '/' || (kind.isSpecial && c == '\\')

/-- What follows the slash that a text begins with. -/
def Kind.afterSlash? (kind : Kind) (text : List Char) : Option (List Char) :=
  match text.dropWhile isDropped with
  | c :: rest => if kind.isSlash c then some rest else none
  | [] => none

/-- A scheme, in small letters. -/
structure Scheme where
  /-- The name of the scheme. -/
  name : String
deriving DecidableEq

namespace Scheme

/-- The schemes of the network with their usual ports. -/
def usualPorts : List (String × Nat) :=
  [("http", 80), ("https", 443), ("ws", 80), ("wss", 443), ("ftp", 21)]

/-- The usual port of a scheme. -/
def usualPort? (scheme : Scheme) : Option Nat :=
  usualPorts.lookup scheme.name

/-- How what follows a scheme is read. -/
def kind (scheme : Scheme) : Kind :=
  if scheme.usualPort?.isSome then .network
  else if scheme.name = "file" then .file
  else .other

/-- Whether a character may stand in a scheme after its first letter. -/
def isInner (c : Char) : Bool :=
  c.isAlphanum || c == '+' || c == '-' || c == '.'

/-- The scheme with a name, which begins with a letter. -/
def ofName? (name : List Char) : Option Scheme :=
  if (name.head?.any Char.isAlpha) && name.all isInner then
    some ⟨String.ofList (name.map Char.toLower)⟩
  else none

/-- The scheme at the start of a text, and what follows the colon after it. -/
def cut? (text : List Char) : Option (Scheme × List Char) :=
  match text.dropWhile (· != ':') with
  | _ :: rest => (ofName? (kept (text.takeWhile (· != ':')))).map fun scheme => (scheme, rest)
  | [] => none

end Scheme

end RegistryBench.Url
