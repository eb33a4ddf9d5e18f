import RegistryBench.Log
import RegistryBench.Storage.Path

/-!
# Storage backends

A backend keeps files by path. Its operations are functions on its state that may refuse; a
wrapper lets a backend fail on some paths.
-/

namespace RegistryBench.Storage

/-- Why a backend refuses an operation. -/
inductive Fault where
  /-- Nothing is stored at the path. -/
  | pathNotFound (path : String)
  /-- The text is no path, or the root where a file is needed. -/
  | invalidPath (path : String)
  /-- The backend failed for a reason of its own. -/
  | backend (name message : String)
deriving DecidableEq

/-- The text of a fault. -/
def Fault.message : Fault → String
  | pathNotFound path => "path not found: " ++ path
  | invalidPath path => "invalid path: " ++ path
  | backend name message => name ++ ": " ++ message

/-- What operations answer can be compared. -/
instance decidableEqExcept {ε α : Type} [DecidableEq ε] [DecidableEq α] :
    DecidableEq (Except ε α)
  | .ok a, .ok b => decidable_of_iff (a = b) ⟨congrArg Except.ok, Except.ok.inj⟩
  | .error e, .error f => decidable_of_iff (e = f) ⟨congrArg Except.error, Except.error.inj⟩
  | .ok _, .error _ => isFalse nofun
  | .error _, .ok _ => isFalse nofun

/-- Refuse a text that is no path. -/
def checkPath (path : String) : Except Fault Unit :=
  if isPath path then .ok () else .error (.invalidPath path)

/-- What is known about a path. -/
structure FileInfo where
  /-- The path. -/
  path : String
  /-- The size of the file, zero for a directory. -/
  size : Nat
  /-- Whether the path is a directory. -/
  isDirectory : Bool
deriving DecidableEq

/-- The operations of a backend with states `σ`. -/
structure Backend (σ : Type) where
  /-- The name of the backend. -/
  name : String
  /-- The content of a file. -/
  get : σ → String → Except Fault Bytes
  /-- Write a file. -/
  put : σ → String → Bytes → Except Fault σ
  /-- What is known about a path. -/
  stat : σ → String → Except Fault FileInfo
  /-- The direct children of a directory, as paths. -/
  list : σ → String → Except Fault (List String)
  /-- Remove a path and everything below it. -/
  delete : σ → String → Except Fault σ
  /-- What a successful write reports. -/
  putEvents : String → Bytes → List Log.Event

/-- A backend that fails on some paths, whatever the operation. -/
def Backend.failingOn {σ : Type} (backend : Backend σ) (broken : List String) : Backend σ :=
  let guard {α : Type} (path : String) (result : Except Fault α) : Except Fault α :=
    if path ∈ broken then .error (.backend "broken" "backend unavailable") else result
  { backend with
    get := fun s path => guard path (backend.get s path)
    put := fun s path content => guard path (backend.put s path content)
    stat := fun s path => guard path (backend.stat s path)
    list := fun s path => guard path (backend.list s path)
    delete := fun s path => guard path (backend.delete s path) }

end RegistryBench.Storage
