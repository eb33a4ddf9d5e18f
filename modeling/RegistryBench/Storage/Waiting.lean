import Std.Data.ExtTreeMap
import Std.Data.ExtTreeSet
import RegistryBench.Error

/-!
# Waiting for writes

A waiting store passes storage operations to a backend and lets waiters block until every path
they ask for exists. A waiter registers once, for each path that is missing then; all waiters on a
path share one signal, which the next write of the path fires. A waiter then goes through its
registrations in order, until the last has been written or its token is cancelled. It would also
end as if cancelled when a signal it holds were given up without being fired.

The store is a state machine: starting, polling, cancelling and dropping waiters and every storage
operation are steps of one thread. The demands are the signals not fired yet, by path; a
registration holds the number of its signal, and a signal that was fired stays so.
-/

namespace RegistryBench.Storage

open Std (ExtTreeMap ExtTreeSet)

/-- What a waiter holds for a path that was missing: the signal that the next write fires. -/
structure Registration where
  /-- The path. -/
  path : String
  /-- The number of the signal. -/
  signal : Nat
deriving DecidableEq

/-- A waiter that has registered and not finished. -/
structure Waiter where
  /-- The token that cancels it. -/
  token : String
  /-- What it still waits for, in order. -/
  pending : List Registration
deriving DecidableEq

/-- How a wait ended. -/
abbrev WaitResult := Except Error Unit

/-- A store that waiters can wait on, over a backend with states `σ`. -/
structure WaitStore (σ : Type) where
  /-- The state of the backend. -/
  inner : σ
  /-- The signal of each path that some waiter waits for. -/
  demands : ExtTreeMap String Nat
  /-- The signals that were fired. -/
  fired : ExtTreeSet Nat
  /-- The number of the next new signal. -/
  fresh : Nat
  /-- The waiters by id. -/
  waiters : ExtTreeMap String Waiter
  /-- The tokens that were cancelled. -/
  cancelledTokens : ExtTreeSet String
  /-- What was reported, oldest first. -/
  log : List Log.Event

namespace WaitStore

variable {σ : Type}

/-- A store that nobody waits on. -/
def init (inner : σ) : WaitStore σ :=
  { inner, demands := ∅, fired := ∅, fresh := 0, waiters := ∅, cancelledTokens := ∅, log := [] }

/-- The module that reports about waiting. -/
def reporter : String := "regharness::storage::wait"

/-- Report an event. -/
def report (store : WaitStore σ) (event : Log.Event) : WaitStore σ :=
  { store with log := store.log ++ [event] }

/-- How many registrations the waiters hold for a signal. -/
def receivers (store : WaitStore σ) (signal : Nat) : Nat :=
  store.waiters.toList.foldr (fun (_, waiter) count =>
    waiter.pending.countP (fun r => r.signal == signal) + count) 0

/-- Drop the demand of a path when no waiter holds its signal. -/
def releasePath (store : WaitStore σ) (path : String) : WaitStore σ :=
  match store.demands[path]? with
  | some signal =>
    if store.receivers signal = 0 then { store with demands := store.demands.erase path } else store
  | none => store

/-- Drop the demands that no waiter holds any more, among some paths. The registrations of the
waiter that goes must be gone already. -/
def release (store : WaitStore σ) (paths : List String) : WaitStore σ :=
  paths.foldl releasePath store

/-- The waiter goes, and what only it waited for is no longer demanded. -/
def dismiss (store : WaitStore σ) (id : String) : WaitStore σ :=
  match store.waiters[id]? with
  | some waiter =>
    { store with waiters := store.waiters.erase id }.release (waiter.pending.map Registration.path)
  | none => store

/-! ### Waiting -/

/-- The signal of a path: the one already demanded, or a new one. -/
def subscribe (store : WaitStore σ) (path : String) : Registration × WaitStore σ :=
  match store.demands[path]? with
  | some signal => (⟨path, signal⟩, store)
  | none =>
    (⟨path, store.fresh⟩,
      { store with demands := store.demands.insert path store.fresh, fresh := store.fresh + 1 })

/-- Register for the missing ones among some paths, after the registrations made so far. When the
backend cannot tell about a path, nothing stays registered. -/
def register (backend : Backend σ) :
    List String → List Registration → WaitStore σ →
      Except Error (List Registration) × WaitStore σ
  | [], made, store => (.ok made, store)
  | path :: paths, made, store =>
    match backend.stat store.inner path with
    | .ok _ => register backend paths made store
    | .error (.pathNotFound _) =>
      let (registration, store) := store.subscribe path
      register backend paths (made ++ [registration])
        (store.report (.debug reporter "waiting for write" [("path", Text.quote path)]))
    | .error source =>
      (.error (.stat path source), store.release (made.map Registration.path))

/-- Whether a signal was given up: no demand holds it, and it was not fired. -/
def isGivenUp (store : WaitStore σ) (signal : Nat) : Bool :=
  !store.demands.values.contains signal && !store.fired.contains signal

/-- Go through registrations in order as far as possible. Where the signal was fired and the token
is cancelled, either may be noticed first; `writeFirst` says which, by the number of registrations
left. The registrations still pending are returned, with the result if there is one. -/
def advance (store : WaitStore σ) (writeFirst : Nat → Bool) (isCancelled : Bool) :
    List Registration → List Log.Event × List Registration × Option WaitResult
  | [] => ([], [], some (.ok ()))
  | r :: rest =>
    if r.signal ∈ store.fired ∧ (¬ isCancelled ∨ writeFirst (rest.length + 1)) then
      let (events, pending, result) := store.advance writeFirst isCancelled rest
      (.debug reporter "observed write" [("path", r.path)] :: events, pending, result)
    else if isCancelled ∨ store.isGivenUp r.signal then
      ([.debug reporter "wait cancelled" [("path", r.path)]], r :: rest,
        some (.error (.cancelled r.path)))
    else ([], r :: rest, none)

/-- Poll a waiter: it goes on as far as it can, and goes away when it finishes. -/
def poll (writeFirst : Nat → Bool) (store : WaitStore σ) (id : String) :
    Option WaitResult × WaitStore σ :=
  match store.waiters[id]? with
  | none => (none, store)
  | some waiter =>
    let (events, pending, result) :=
      store.advance writeFirst (waiter.token ∈ store.cancelledTokens) waiter.pending
    let store := { store with
      waiters := store.waiters.insert id { waiter with pending }
      log := store.log ++ events }
    match result with
    | some result => (some result, store.dismiss id)
    | none => (none, store)

/-- Start a waiter, which takes the place of one with the same id, and poll it once. -/
def start (backend : Backend σ) (writeFirst : Nat → Bool) (store : WaitStore σ)
    (id token : String) (paths : List String) : Option WaitResult × WaitStore σ :=
  match register backend paths [] (store.dismiss id) with
  | (.error e, store) => (some (.error e), store)
  | (.ok pending, store) =>
    { store with waiters := store.waiters.insert id ⟨token, pending⟩ }.poll writeFirst id

/-- Cancel a token, for good. -/
def cancel (store : WaitStore σ) (token : String) : WaitStore σ :=
  { store with cancelledTokens := store.cancelledTokens.insert token }

/-- The paths that some waiter waits for, ascending. Demands that nobody holds are dropped
first. -/
def pendingPaths (store : WaitStore σ) : List String × WaitStore σ :=
  let demands := store.demands.filter fun _ signal => store.receivers signal != 0
  (demands.keys, { store with demands })

/-! ### Storage operations -/

/-- Write a file and fire the signal of its path. -/
def put (backend : Backend σ) (store : WaitStore σ) (path : String) (content : Bytes) :
    Except Fault Unit × WaitStore σ :=
  match backend.put store.inner path content with
  | .error fault => (.error fault, store)
  | .ok inner =>
    let store := { store with inner, log := store.log ++ backend.putEvents path content }
    match store.demands[path]? with
    | none => (.ok (), store)
    | some signal =>
      let event := .debug reporter "signalled write"
        [("path", Text.quote path), ("waiters", (store.receivers signal).repr)]
      (.ok (), { store with
        demands := store.demands.erase path
        fired := store.fired.insert signal
        log := store.log ++ [event] })

/-- The content of a file. -/
def get (backend : Backend σ) (store : WaitStore σ) (path : String) : Except Fault Bytes :=
  backend.get store.inner path

/-- What is known about a path. -/
def stat (backend : Backend σ) (store : WaitStore σ) (path : String) : Except Fault FileInfo :=
  backend.stat store.inner path

/-- The direct children of a directory. -/
def list (backend : Backend σ) (store : WaitStore σ) (path : String) :
    Except Fault (List String) :=
  backend.list store.inner path

/-- Remove a path and everything below it. -/
def delete (backend : Backend σ) (store : WaitStore σ) (path : String) :
    Except Fault Unit × WaitStore σ :=
  match backend.delete store.inner path with
  | .error fault => (.error fault, store)
  | .ok inner => (.ok (), { store with inner })

/-! ### Steps -/

/-- A step of the one thread that uses a store. -/
inductive Step where
  /-- Start a waiter and poll it. -/
  | start (id token : String) (paths : List String)
  /-- Poll a waiter. -/
  | poll (id : String)
  /-- Drop a waiter that has not finished. -/
  | drop (id : String)
  /-- Cancel a token. -/
  | cancel (token : String)
  /-- Write a file. -/
  | put (path : String) (content : Bytes)
  /-- Read a file. -/
  | get (path : String)
  /-- Ask about a path. -/
  | stat (path : String)
  /-- List a directory. -/
  | list (path : String)
  /-- Remove a path. -/
  | delete (path : String)
  /-- Ask for the paths that are waited for. -/
  | pendingPaths
deriving DecidableEq

/-- What a step answers. -/
inductive Answer where
  /-- A waiter finished, or has to wait. -/
  | waited (result : Option WaitResult)
  /-- Whether there was a waiter to drop. -/
  | dropped (wasLive : Bool)
  /-- A token is cancelled. -/
  | cancelled
  /-- A write or a removal was done or refused. -/
  | changed (result : Except Fault Unit)
  /-- The content of a file. -/
  | content (result : Except Fault Bytes)
  /-- What is known about a path. -/
  | info (result : Except Fault FileInfo)
  /-- The children of a directory. -/
  | children (result : Except Fault (List String))
  /-- The paths that are waited for. -/
  | pending (paths : List String)
deriving DecidableEq

/-- Take one step. -/
def step (backend : Backend σ) (writeFirst : Nat → Bool) (store : WaitStore σ) :
    Step → Answer × WaitStore σ
  | .start id token paths =>
    let (result, store) := store.start backend writeFirst id token paths
    (.waited result, store)
  | .poll id =>
    let (result, store) := store.poll writeFirst id
    (.waited result, store)
  | .drop id => (.dropped (id ∈ store.waiters), store.dismiss id)
  | .cancel token => (.cancelled, store.cancel token)
  | .put path content =>
    let (result, store) := store.put backend path content
    (.changed result, store)
  | .get path => (.content (store.get backend path), store)
  | .stat path => (.info (store.stat backend path), store)
  | .list path => (.children (store.list backend path), store)
  | .delete path =>
    let (result, store) := store.delete backend path
    (.changed result, store)
  | .pendingPaths =>
    let (paths, store) := store.pendingPaths
    (.pending paths, store)

/-- Poll every waiter, in the order of their ids, and collect those that finish. -/
def pollAll (writeFirst : Nat → Bool) (store : WaitStore σ) :
    List (String × WaitResult) × WaitStore σ :=
  store.waiters.keys.foldl (fun (finished, store) id =>
    match store.poll writeFirst id with
    | (some result, store) => (finished ++ [(id, result)], store)
    | (none, store) => (finished, store)) ([], store)

end WaitStore

end RegistryBench.Storage
