import RegistryBench.Text.Cut
import RegistryBench.Url.Escape
import RegistryBench.Url.Scheme

/-!
# Paths

The path of a URL, as its components. A component that stands for this directory or the one above
is resolved: it is left out, with the component before it in the second case. A component that
names a drive is the root of a tree of its own, and nothing leads above it.
-/

namespace RegistryBench.Url

/-- The path of a URL. -/
inductive Path where
  /-- Components, each after a slash. -/
  | components (list : List String)
  /-- A text of the scheme's own. -/
  | plain (text : String)
deriving DecidableEq

namespace Path

/-- The text of a path. -/
def toText : Path → String
  | .components list => String.join (list.map fun component => "/" ++ component)
  | .plain text => text

/-- Whether the text of a path begins with two slashes. -/
def isDoubled : Path → Bool
  | .components ("" :: _ :: _) => true
  | _ => false

/-- How a component that stands for this directory may be written. -/
def dotNames : List String := [".", "%2e"]

/-- How a component that stands for the directory above may be written. -/
def dotDotNames : List String := ["..", ".%2e", "%2e.", "%2e%2e"]

/-- Whether a component begins with the name of a drive: a letter, then a colon or a bar. -/
def namesDrive : List Char → Bool
  | [letter, mark] | letter :: mark :: '\\' :: _ => letter.isAlpha && (mark == ':' || mark == '|')
  | _ => false

/-- Whether a component is the name of a drive and nothing else. -/
def isDrive (component : List Char) : Bool :=
  component.length == 2 && namesDrive component

/-- The components before, given latest first, without the latest, unless it is a drive. -/
def above : List String → List String
  | [] => []
  | latest :: earlier => if namesDrive latest.toList then latest :: earlier else earlier

/-- How far a path has been followed. -/
structure Trail where
  /-- The components so far, latest first. -/
  before : List String
  /-- Whether the first of them is the drive of a file. -/
  isOnDrive : Bool

/-- A drive at the start of a component and the rest of it, where characters between them are
dropped. -/
def cutDrive? (text : List Char) : Option (String × List Char) :=
  match text.dropWhile isDropped with
  | letter :: rest =>
    match rest.dropWhile isDropped with
    | ':' :: c :: rest =>
      if letter.isAlpha && isDropped c && kept rest != [] then
        some (String.ofList [letter, ':'], kept rest)
      else none
    | _ => none
  | [] => none

namespace Trail

/-- A path that has not been followed yet. -/
def start : Trail := ⟨[], false⟩

/-- Go down to a component. The drive that the path of a file begins with is marked with a colon;
what is set off from such a drive by characters that are dropped is a component of its own. -/
def down (kind : Kind) (trail : Trail) (text : List Char) : Trail :=
  let name := kept text
  if kind = .file ∧ trail.before = [] then
    if isDrive name then ⟨[String.ofList (name.take 1 ++ [':'])], true⟩
    else
      match cutDrive? text with
      | some (drive, rest) => { trail with before := [escape pathEscapes rest, drive] }
      | none => { trail with before := [escape pathEscapes name] }
  else { trail with before := escape pathEscapes name :: trail.before }

/-- Follow a component. After one that stands for a directory, the path ends with a slash. -/
def step (kind : Kind) (isLast : Bool) (trail : Trail) (text : List Char) : Trail :=
  let name := String.ofList ((kept text).map Char.toLower)
  let close := fun before : List String => if isLast then "" :: before else before
  if name ∈ dotDotNames then { trail with before := close (above trail.before) }
  else if name ∈ dotNames then { trail with before := close trail.before }
  else trail.down kind text

/-- Follow components. -/
def follow (kind : Kind) (trail : Trail) : List (List Char) → Trail
  | [] => trail
  | text :: rest => follow kind (trail.step kind rest.isEmpty text) rest

/-- Follow the text of a path after its first slash. -/
def ofText (kind : Kind) (text : List Char) : Trail :=
  start.follow kind (Text.splitList '/' (text.map fun c => if kind.isSlash c then '/' else c))

/-- The path that has been followed. -/
def path (trail : Trail) : Path :=
  .components trail.before.reverse

end Trail

/-- The path that a text denotes for URLs of a kind, with or without a slash at its start. -/
def ofText (kind : Kind) (text : List Char) : Path :=
  (Trail.ofText kind ((kind.afterSlash? text).getD text)).path

/-- A path without empty components at the start, save one that is the whole. -/
def withoutMargin : Path → Path
  | .components list =>
    match list.dropWhile (· == "") with
    | [] => .components [""]
    | rest => .components rest
  | path => path

end Path

end RegistryBench.Url
