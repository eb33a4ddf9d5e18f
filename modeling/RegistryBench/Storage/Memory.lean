import Std.Data.ExtTreeMap
import Std.Data.ExtTreeSet
import RegistryBench.Storage.Backend

/-!
# Storage in memory

Files kept by path. Directories are not stored: a path is one while some file lies below it, and
a path may be both a file and a directory.
-/

namespace RegistryBench.Storage

/-- Files by path. -/
structure Files where
  /-- The content of each file. -/
  contents : Std.ExtTreeMap String Bytes
deriving DecidableEq

namespace Files

/-- No files. -/
def empty : Files := ⟨∅⟩

/-- The paths of all files, ascending. -/
def paths (files : Files) : List String :=
  files.contents.keys

/-- Whether a stored path lies below a directory. -/
def isBelow (path stored : String) : Bool :=
  Text.startsWith stored (directoryPrefix path)

/-- The content of a file. -/
def get (files : Files) (path : String) : Except Fault Bytes := do
  checkPath path
  match files.contents[path]? with
  | some content => .ok content
  | none => .error (.pathNotFound path)

/-- Write a file. The root is no file. -/
def put (files : Files) (path : String) (content : Bytes) : Except Fault Files := do
  checkPath path
  if path = "/" then .error (.invalidPath path)
  else .ok ⟨files.contents.insert path content⟩

/-- What is known about a path: a file where one is stored, else a directory where files lie
below. -/
def stat (files : Files) (path : String) : Except Fault FileInfo := do
  checkPath path
  match files.contents[path]? with
  | some content => .ok ⟨path, content.length, false⟩
  | none =>
    if files.paths.any (isBelow path) then .ok ⟨path, 0, true⟩ else .error (.pathNotFound path)

/-- The child of a directory that leads to a stored path below it. -/
def childToward? (path stored : String) : Option String :=
  (Text.strip? (directoryPrefix path) stored).map fun rest =>
    directoryPrefix path ++ String.ofList (rest.toList.takeWhile (· != '/'))

/-- The direct children of a directory, ascending. Only the root may have none. -/
def list (files : Files) (path : String) : Except Fault (List String) := do
  checkPath path
  let children : Std.ExtTreeSet String := .ofList (files.paths.filterMap (childToward? path))
  if children.isEmpty ∧ path ≠ "/" then .error (.pathNotFound path) else .ok children.toList

/-- Remove a path and everything below it; something must have been there. -/
def delete (files : Files) (path : String) : Except Fault Files := do
  checkPath path
  if files.paths.any (fun stored => stored == path || isBelow path stored) then
    .ok ⟨files.contents.filter fun stored _ => stored != path && !isBelow path stored⟩
  else .error (.pathNotFound path)

/-- The module that reports about storage in memory. -/
def reporter : String := "regharness::storage::memory"

/-- Storage in memory as a backend. -/
def backend : Backend Files where
  name := "inmemory"
  get := get
  put := put
  stat := stat
  list := list
  delete := delete
  putEvents path content :=
    [⟨.trace, reporter, "put content",
      [("path", Text.quote path), ("size", content.length.repr)]⟩]

end Files

end RegistryBench.Storage
