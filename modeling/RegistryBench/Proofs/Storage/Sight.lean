import RegistryBench.Proofs.Storage.Outcomes

/-!
# What a waiter sees

A waiter sees its token and, for each path that it still waits for, whether the path has been
written since the waiter registered. Signals, demands and other waiters are out of its sight,
although it is the signals shared with others that tell it of writes: what a waiter is answered,
and what it sees next, is a function of what it sees.

* `answer_poll` and `sight?_poll` say so of polling, `answer_start` and `sight?_start` of starting.
* `sight?_put` says what a write changes in the sight of every waiter.
* `mem_pendingPaths_iff`: the pending paths are those that some waiter sees unwritten.
-/

namespace RegistryBench.Storage

open Std (ExtTreeMap ExtTreeSet)

variable {σ : Type}

/-- What a waiter sees. -/
structure Sight where
  /-- The token that cancels it. -/
  token : String
  /-- The paths it still waits for, in order, each with whether it has been written. -/
  awaited : List (String × Bool)

namespace Sight

/-- Go through paths in order as far as possible. Where a path has been written and the token is
cancelled, `writeFirst` says which is noticed first, by the number of paths left. -/
def advance (writeFirst : Nat → Bool) (isCancelled : Bool) :
    List (String × Bool) → List (String × Bool) × Option WaitResult
  | [] => ([], some (.ok ()))
  | (path, isWritten) :: rest =>
    if isWritten ∧ (¬ isCancelled ∨ writeFirst (rest.length + 1)) then
      advance writeFirst isCancelled rest
    else
      ((path, isWritten) :: rest, if isCancelled then some (.error (.cancelled path)) else none)

/-- What a waiter returns when it is polled, and what it sees then if it has to go on waiting. -/
def poll (writeFirst : Nat → Bool) (isCancelled : String → Bool) (sight : Sight) :
    Option WaitResult × Option Sight :=
  match advance writeFirst (isCancelled sight.token) sight.awaited with
  | (_, some result) => (some result, none)
  | (awaited, none) => (none, some { sight with awaited })

/-- The missing ones among some paths, unless the backend cannot tell about one. -/
def missing (backend : Backend σ) (inner : σ) : List String → Except Error (List String)
  | [] => .ok []
  | path :: paths =>
    match backend.stat inner path with
    | .ok _ => missing backend inner paths
    | .error (.pathNotFound _) => (missing backend inner paths).map (path :: ·)
    | .error source => .error (.stat path source)

/-- What a waiter returns when it is started, and what it sees then if it has to wait. -/
def start (backend : Backend σ) (writeFirst : Nat → Bool) (inner : σ) (isCancelled : String → Bool)
    (token : String) (paths : List String) : Option WaitResult × Option Sight :=
  match missing backend inner paths with
  | .error e => (some (.error e), none)
  | .ok paths => poll writeFirst isCancelled ⟨token, paths.map (·, false)⟩

/-- What a waiter sees when a path has been written. -/
def written (path : String) (sight : Sight) : Sight :=
  { sight with
    awaited := sight.awaited.map fun (awaited, isWritten) =>
      (awaited, isWritten || awaited == path) }

/-- What the waiter of some id sees after a step, if there is one then. -/
def next (backend : Backend σ) (writeFirst : Nat → Bool) (inner : σ) (isCancelled : String → Bool)
    (id : String) (sight? : Option Sight) : WaitStore.Step → Option Sight
  | .start other token paths =>
    if other = id then (start backend writeFirst inner isCancelled token paths).2 else sight?
  | .poll other =>
    if other = id then sight?.bind fun sight => (sight.poll writeFirst isCancelled).2 else sight?
  | .drop other => if other = id then none else sight?
  | .put path content =>
    match backend.put inner path content with
    | .ok _ => sight?.map (written path)
    | .error _ => sight?
  | .cancel _ | .get _ | .stat _ | .list _ | .delete _ | .pendingPaths => sight?

/-- What a step that is about a waiter answers it. -/
def answer? (backend : Backend σ) (writeFirst : Nat → Bool) (inner : σ)
    (isCancelled : String → Bool) (sight? : Option Sight) :
    WaitStore.Step → Option WaitStore.Answer
  | .start _ token paths =>
    some (.waited (start backend writeFirst inner isCancelled token paths).1)
  | .poll _ =>
    some (.waited (sight?.bind fun sight => (sight.poll writeFirst isCancelled).1))
  | .drop _ => some (.dropped sight?.isSome)
  | .cancel _ | .put _ _ | .get _ | .stat _ | .list _ | .delete _ | .pendingPaths => none

/-! ### What is seen next -/

/-- The paths that a waiter still waits for. -/
def paths (sight : Sight) : List String :=
  sight.awaited.map Prod.fst

/-- A waiter takes what it awaits from the front. -/
theorem advance_suffix (writeFirst : Nat → Bool) (isCancelled : Bool)
    (awaited : List (String × Bool)) :
    (advance writeFirst isCancelled awaited).1 <:+ awaited := by
  induction awaited with
  | nil => exact List.suffix_rfl
  | cons entry rest ih =>
    rw [advance]
    split
    · exact ih.trans (List.suffix_cons entry rest)
    · exact List.suffix_rfl

/-- A waiter that has to go on waiting has its token still, and its last paths. -/
theorem poll_some {writeFirst : Nat → Bool} {isCancelled : String → Bool} {sight left : Sight}
    (h : (sight.poll writeFirst isCancelled).2 = some left) :
    left.token = sight.token ∧ left.paths <:+ sight.paths := by
  have hsuffix := advance_suffix writeFirst (isCancelled sight.token) sight.awaited
  rw [poll] at h
  split at h
  next => contradiction
  next heq =>
    obtain rfl := Option.some.inj h
    rw [heq] at hsuffix
    exact ⟨rfl, hsuffix.map Prod.fst⟩

/-- Missing paths are among those asked for. -/
theorem missing_subset {backend : Backend σ} {inner : σ} {asked missing : List String}
    (h : Sight.missing backend inner asked = .ok missing) : missing ⊆ asked := by
  induction asked generalizing missing with
  | nil => exact Except.ok.inj h ▸ List.Subset.refl _
  | cons path asked ih =>
    rw [Sight.missing] at h
    split at h
    next => exact List.Subset.trans (ih h) (List.subset_cons_self path asked)
    next =>
      -- the path is missing, and the paths after it decide whether there is a result
      cases hrest : Sight.missing backend inner asked with
      | error e =>
        rw [hrest] at h
        contradiction
      | ok rest =>
        rw [hrest] at h
        exact Except.ok.inj h ▸ List.cons_subset_cons path (ih hrest)
    next => contradiction

/-- A waiter that has started and has to wait has its token and waits for paths it asked for. -/
theorem start_some {backend : Backend σ} {writeFirst : Nat → Bool} {inner : σ}
    {isCancelled : String → Bool} {token : String} {asked : List String} {left : Sight}
    (h : (start backend writeFirst inner isCancelled token asked).2 = some left) :
    left.token = token ∧ left.paths ⊆ asked := by
  rw [start] at h
  split at h
  next => contradiction
  next missing hmissing =>
    obtain ⟨htoken, hsuffix⟩ := poll_some h
    have hpaths : (Sight.mk token (missing.map (·, false))).paths = missing := by
      simp [paths, Function.comp_def]
    rw [hpaths] at hsuffix
    exact ⟨htoken, List.Subset.trans hsuffix.subset (missing_subset hmissing)⟩

/-- Where what a waiter sees after a step comes from: the step has started it, or it saw the same
token before and has lost the first of its paths at most. -/
theorem next_some {backend : Backend σ} {writeFirst : Nat → Bool} {inner : σ}
    {isCancelled : String → Bool} {id : String} {sight? : Option Sight} {step : WaitStore.Step}
    {after : Sight} (h : next backend writeFirst inner isCancelled id sight? step = some after) :
    (∃ token asked, step = .start id token asked ∧ after.token = token ∧ after.paths ⊆ asked) ∨
      ∃ before, sight? = some before ∧ after.token = before.token ∧
        after.paths <:+ before.paths := by
  have hsame (hsight : sight? = some after) : ∃ before, sight? = some before ∧
      after.token = before.token ∧ after.paths <:+ before.paths :=
    ⟨after, hsight, rfl, List.suffix_rfl⟩
  cases step with
  | start other token asked =>
    rw [next] at h
    split at h
    next hother => exact Or.inl ⟨token, asked, hother ▸ rfl, start_some h⟩
    next => exact Or.inr (hsame h)
  | poll other =>
    rw [next] at h
    split at h
    next =>
      obtain ⟨before, hbefore, hpoll⟩ := Option.bind_eq_some_iff.1 h
      exact Or.inr ⟨before, hbefore, poll_some hpoll⟩
    next => exact Or.inr (hsame h)
  | drop other =>
    rw [next] at h
    split at h
    next => contradiction
    next => exact Or.inr (hsame h)
  | put path content =>
    rw [next] at h
    split at h
    next =>
      obtain ⟨before, hbefore, rfl⟩ := Option.map_eq_some_iff.1 h
      -- a write marks a path as written, which does not take it away
      have hpaths : (written path before).paths = before.paths := by
        simp [paths, written, Function.comp_def]
      exact Or.inr ⟨before, hbefore, rfl, hpaths ▸ List.suffix_rfl⟩
    next => exact Or.inr (hsame h)
  | _ => exact Or.inr (hsame h)

/-! ### Tokens -/

/-- Polling asks for the token of the waiter only. -/
theorem poll_congr {writeFirst : Nat → Bool} {isCancelled isCancelled' : String → Bool}
    {sight : Sight} (h : isCancelled' sight.token = isCancelled sight.token) :
    sight.poll writeFirst isCancelled' = sight.poll writeFirst isCancelled := by
  rw [poll, poll, h]

/-- Starting asks for the token of the new waiter only. -/
theorem start_congr {backend : Backend σ} {writeFirst : Nat → Bool} {inner : σ}
    {isCancelled isCancelled' : String → Bool} {token : String}
    (h : isCancelled' token = isCancelled token) (asked : List String) :
    start backend writeFirst inner isCancelled' token asked =
      start backend writeFirst inner isCancelled token asked := by
  rw [start, start]
  cases missing backend inner asked with
  | error e => rfl
  | ok missing => exact poll_congr h

/-- What a waiter sees after a step depends on cancellations of its own token only. -/
theorem next_congr {backend : Backend σ} {writeFirst : Nat → Bool} {inner : σ}
    {isCancelled isCancelled' : String → Bool} {id : String} {sight? : Option Sight}
    {step : WaitStore.Step}
    (hsight : ∀ sight, sight? = some sight → isCancelled' sight.token = isCancelled sight.token)
    (hstart : ∀ token asked, step = .start id token asked →
      isCancelled' token = isCancelled token) :
    next backend writeFirst inner isCancelled' id sight? step =
      next backend writeFirst inner isCancelled id sight? step := by
  cases step with
  | start other token asked =>
    rw [next, next]
    by_cases hother : other = id
    · rw [if_pos hother, if_pos hother, start_congr (hstart token asked (hother ▸ rfl))]
    · rw [if_neg hother, if_neg hother]
  | poll other =>
    have hpoll : (sight?.bind fun sight => (sight.poll writeFirst isCancelled').2) =
        sight?.bind fun sight => (sight.poll writeFirst isCancelled).2 :=
      Option.bind_congr fun sight hmem => congrArg Prod.snd (poll_congr (hsight sight hmem))
    rw [next, next, hpoll]
  | _ => rfl

/-- What a waiter is answered depends on cancellations of its own token only. -/
theorem answer?_congr {backend : Backend σ} {writeFirst : Nat → Bool} {inner : σ}
    {isCancelled isCancelled' : String → Bool} {sight? : Option Sight} {step : WaitStore.Step}
    (hsight : ∀ sight, sight? = some sight → isCancelled' sight.token = isCancelled sight.token)
    (hstart : ∀ id token asked, step = .start id token asked →
      isCancelled' token = isCancelled token) :
    answer? backend writeFirst inner isCancelled' sight? step =
      answer? backend writeFirst inner isCancelled sight? step := by
  cases step with
  | start id token asked => rw [answer?, answer?, start_congr (hstart id token asked rfl)]
  | poll other =>
    have hpoll : (sight?.bind fun sight => (sight.poll writeFirst isCancelled').1) =
        sight?.bind fun sight => (sight.poll writeFirst isCancelled).1 :=
      Option.bind_congr fun sight hmem => congrArg Prod.fst (poll_congr (hsight sight hmem))
    rw [answer?, answer?, hpoll]
  | _ => rfl

end Sight

namespace WaitStore

/-! ### Sights of waiters -/

/-- What the holder of a registration sees of it. -/
def view (store : WaitStore σ) (r : Registration) : String × Bool :=
  (r.path, r.signal ∈ store.fired)

/-- What a waiter sees. -/
def sight (store : WaitStore σ) (waiter : Waiter) : Sight :=
  ⟨waiter.token, waiter.pending.map store.view⟩

/-- What the waiter of some id sees, if there is one. -/
def sight? (store : WaitStore σ) (id : String) : Option Sight :=
  store.waiters[id]?.map store.sight

/-- Whether a token was cancelled. -/
def isCancelled (store : WaitStore σ) (token : String) : Bool :=
  token ∈ store.cancelledTokens

/-- What is seen of a waiter is read off the waiter that is stored under its id. -/
theorem sight?_eq_some_iff {store : WaitStore σ} {id : String} {sight : Sight} :
    store.sight? id = some sight ↔
      ∃ waiter, store.waiters[id]? = some waiter ∧ store.sight waiter = sight :=
  Option.map_eq_some_iff

/-- What a waiter sees depends on the signals that were fired and on what it holds. -/
theorem sight?_congr {store store' : WaitStore σ} {id : String}
    (hfired : store'.fired = store.fired) (hwaiter : store'.waiters[id]? = store.waiters[id]?) :
    store'.sight? id = store.sight? id := by
  have hview : store'.view = store.view := by
    funext r
    rw [view, view, hfired]
  have hsight : store'.sight = store.sight := by
    funext waiter
    rw [sight, sight, hview]
  rw [sight?, sight?, hwaiter, hsight]

/-! ### Polling -/

/-- A waiter whose registrations are linked goes through what it sees. -/
theorem advance_view {store : WaitStore σ} {pending : List Registration}
    (hlinked : ∀ r ∈ pending, store.Linked r) (writeFirst : Nat → Bool) (isCancelled : Bool) :
    Sight.advance writeFirst isCancelled (pending.map store.view) =
      ((store.advance writeFirst isCancelled pending).2.1.map store.view,
        (store.advance writeFirst isCancelled pending).2.2) := by
  induction pending with
  | nil => rfl
  | cons r rest ih =>
    obtain ⟨hr, hrest⟩ := List.forall_mem_cons.1 hlinked
    rw [List.map_cons, view, Sight.advance, WaitStore.advance, List.length_map]
    by_cases hgo : r.signal ∈ store.fired ∧ (¬ isCancelled ∨ writeFirst (rest.length + 1))
    · have hgo' : decide (r.signal ∈ store.fired) = true ∧
          (¬ isCancelled ∨ writeFirst (rest.length + 1)) := by
        simpa using hgo
      rw [if_pos hgo, if_pos hgo']
      exact ih hrest
    · have hgo' : ¬ (decide (r.signal ∈ store.fired) = true ∧
          (¬ isCancelled ∨ writeFirst (rest.length + 1))) := by
        simpa using hgo
      -- no signal is given up, so a wait that stops here was cancelled or goes on
      rw [if_neg hgo, if_neg hgo', isGivenUp_of_linked hr]
      cases isCancelled with
      | true => rfl
      | false => rfl

/-- A waiter returns what it sees. -/
theorem answer_poll {store : WaitStore σ} (h : store.Connected) (writeFirst : Nat → Bool)
    (id : String) :
    (store.poll writeFirst id).1 =
      (store.sight? id).bind fun sight => (sight.poll writeFirst store.isCancelled).1 := by
  cases hwaiter : store.waiters[id]? with
  | none => rw [poll_of_none hwaiter, sight?, hwaiter, Option.map_none, Option.bind_none]
  | some waiter =>
    have hadvance := advance_view (h id waiter hwaiter) writeFirst (store.isCancelled waiter.token)
    rw [result_poll_of_some hwaiter, sight?, hwaiter, Option.map_some, Option.bind_some, Sight.poll,
      sight, hadvance]
    simp only [isCancelled]
    split
    next heq => exact (Prod.mk.inj heq).2
    next heq => exact (Prod.mk.inj heq).2

/-- A waiter that is polled sees what is left to wait for, if it is still there. -/
theorem sight?_poll {store : WaitStore σ} (h : store.Connected) (writeFirst : Nat → Bool)
    (id other : String) :
    (store.poll writeFirst id).2.sight? other =
      if id = other then
        (store.sight? id).bind fun sight => (sight.poll writeFirst store.isCancelled).2
      else store.sight? other := by
  by_cases hother : id = other
  · subst hother
    rw [if_pos rfl]
    cases hwaiter : store.waiters[id]? with
    | none => rw [poll_of_none hwaiter, sight?, hwaiter, Option.map_none, Option.bind_none]
    | some waiter =>
      have hadvance := advance_view (h id waiter hwaiter) writeFirst
        (store.isCancelled waiter.token)
      have hbefore : store.sight? id = some (store.sight waiter) := by
        rw [sight?, hwaiter, Option.map_some]
      rw [hbefore, Option.bind_some, Sight.poll, sight, hadvance, poll_of_some hwaiter]
      simp only [isCancelled]
      split
      next result _ =>
        -- a waiter that has finished has gone
        simp only [sight?, getElem?_waiters_dismiss, if_pos, Option.map_none, *]
      next hnone =>
        have hafter : (store.goOn writeFirst id waiter).waiters[id]? = some { waiter with
            pending := (store.advance writeFirst (store.isCancelled waiter.token)
              waiter.pending).2.1 } := ExtTreeMap.getElem?_insert_self
        simp only [sight?, hafter, Option.map_some, sight, isCancelled, hnone]
        rfl
  · rw [if_neg hother]
    exact sight?_congr (fired_poll store writeFirst id) (getElem?_waiters_poll_of_ne hother _)

/-! ### Starting -/

/-- A waiter registers for the missing paths, after the registrations made so far. -/
theorem paths_register (backend : Backend σ) (paths : List String) (made : List Registration)
    (store : WaitStore σ) :
    (register backend paths made store).1.map (List.map Registration.path) =
      (Sight.missing backend store.inner paths).map (made.map Registration.path ++ ·) := by
  induction paths generalizing made store with
  | nil => simp [register, Sight.missing, Except.map]
  | cons path paths ih =>
    rw [register, Sight.missing]
    cases backend.stat store.inner path with
    | ok info => exact ih made store
    | error fault =>
      cases fault with
      | pathNotFound named =>
        -- the backend is as it was, and the path comes after those registered for so far
        obtain ⟨demands, fresh, hframe⟩ := store.subscribe_frame path
        have hrest := ih (made ++ [(store.subscribe path).1]) ((store.subscribe path).2.report
          (.debug reporter "waiting for write" [("path", Text.quote path)]))
        have hinner : ((store.subscribe path).2.report
            (.debug reporter "waiting for write" [("path", Text.quote path)])).inner =
            store.inner := by
          rw [hframe]
          rfl
        rw [hinner, List.map_append, List.map_singleton, (store.demands_subscribe path).1] at hrest
        refine hrest.trans ?_
        cases Sight.missing backend store.inner paths with
        | error e => rfl
        | ok missing => simp [Except.map]
      | invalidPath text => rfl
      | backend name message => rfl

/-- What is missing among the paths of a new waiter is what it registers for. -/
theorem missing_eq (backend : Backend σ) (paths : List String) (store : WaitStore σ) :
    Sight.missing backend store.inner paths =
      (register backend paths [] store).1.map (List.map Registration.path) := by
  rw [paths_register]
  cases Sight.missing backend store.inner paths with
  | error e => rfl
  | ok missing => rfl

/-- When a waiter goes, the others see what they saw. -/
theorem sight?_dismiss (store : WaitStore σ) (id other : String) :
    (store.dismiss id).sight? other = if id = other then none else store.sight? other := by
  have hfired : (store.dismiss id).fired = store.fired := by
    obtain ⟨demands, hframe⟩ := store.dismiss_frame id
    rw [hframe]
  by_cases hother : id = other
  · rw [if_pos hother, sight?, getElem?_waiters_dismiss, if_pos hother, Option.map_none]
  · rw [if_neg hother]
    refine sight?_congr hfired ?_
    rw [getElem?_waiters_dismiss, if_neg hother]

/-- What a waiter is answered when it starts, and what it sees then. -/
theorem start_eq {store : WaitStore σ} (hconnected : store.Connected) (horderly : store.Orderly)
    (backend : Backend σ) (writeFirst : Nat → Bool) (id token : String) (paths : List String) :
    let seen := Sight.start backend writeFirst store.inner store.isCancelled token paths
    (store.start backend writeFirst id token paths).1 = seen.1 ∧
      (store.start backend writeFirst id token paths).2.sight? id = seen.2 := by
  intro seen
  have hmissing := missing_eq backend paths (store.dismiss id)
  obtain ⟨demands, hdismiss⟩ := store.dismiss_frame id
  have hinner : (store.dismiss id).inner = store.inner := by rw [hdismiss]
  rw [hinner] at hmissing
  cases hregister : (register backend paths [] (store.dismiss id)).1 with
  | error e =>
    rw [hregister] at hmissing
    obtain ⟨demands, fresh, log, hframe⟩ := register_dismiss_frame backend store id paths
    rw [start_of_error hregister, hframe]
    simp only [seen, Sight.start, hmissing, Except.map, sight?, ExtTreeMap.getElem?_erase_self,
      Option.map_none, and_self]
  | ok made =>
    rw [hregister] at hmissing
    have henrolled := enrolled_of_register hconnected horderly hregister token
    let enrolled := (register backend paths [] (store.dismiss id)).2.enrol id ⟨token, made⟩
    -- a path has not been written when a waiter has just registered for it
    have hsight : enrolled.sight? id =
        some ⟨token, (made.map Registration.path).map (·, false)⟩ := by
      refine sight?_eq_some_iff.2 ⟨_, ExtTreeMap.getElem?_insert_self, ?_⟩
      rw [sight, List.map_map]
      refine congrArg (Sight.mk token) (List.map_congr_left fun r hr => ?_)
      exact congrArg (Prod.mk r.path) (decide_eq_false (henrolled.unfired r hr))
    have hcancelled : enrolled.isCancelled = store.isCancelled := by
      funext other
      rw [isCancelled, isCancelled, henrolled.cancelledTokens_eq]
    rw [start_of_ok hregister]
    refine ⟨(answer_poll henrolled.connected writeFirst id).trans ?_,
      (sight?_poll henrolled.connected writeFirst id id).trans ?_⟩
    · rw [hsight, hcancelled]
      simp only [seen, Sight.start, hmissing, Except.map, Option.bind_some]
    · rw [if_pos rfl, hsight, hcancelled]
      simp only [seen, Sight.start, hmissing, Except.map, Option.bind_some]

/-- When a waiter starts, the others see what they saw. -/
theorem sight?_start_of_ne {backend : Backend σ} {store : WaitStore σ} {id other : String}
    (hne : id ≠ other) (writeFirst : Nat → Bool) (token : String) (paths : List String) :
    (store.start backend writeFirst id token paths).2.sight? other = store.sight? other :=
  sight?_congr (fired_start _ _ _ _ _ _) (getElem?_waiters_start_of_ne hne _ _ _ _)

/-! ### Writing -/

/-- What the backend says of a write is answered. -/
theorem answer_put (backend : Backend σ) (store : WaitStore σ) (path : String) (content : Bytes) :
    (store.put backend path content).1 =
      (backend.put store.inner path content).map fun _ => () := by
  obtain ⟨fault, hinner, hput⟩ | ⟨inner, log, hinner, ⟨-, hput⟩ | ⟨signal, -, hput⟩⟩ :=
    put_cases backend store path content
  · rw [hput, hinner]
    rfl
  · rw [hput, hinner]
    rfl
  · rw [hput, hinner]
    rfl

/-- A write fires the signals of its own path only. -/
theorem fired_put_iff {backend : Backend σ} {store : WaitStore σ} (horderly : store.Orderly)
    {r : Registration} (hlinked : store.Linked r) {path : String} {content : Bytes}
    (hdone : (store.put backend path content).1 = .ok ()) :
    r.signal ∈ (store.put backend path content).2.fired ↔
      r.signal ∈ store.fired ∨ r.path = path := by
  constructor
  · intro hfired
    exact (fired_of_fired_put hfired).imp_right fun ⟨hdemand, _⟩ =>
      horderly.path_eq hlinked hdemand
  · rintro (hfired | rfl)
    · exact fired_put_of_fired hfired
    · exact fired_of_put hlinked hdone

/-- What waiters see after a write. -/
theorem sight?_put {backend : Backend σ} {store : WaitStore σ} (hconnected : store.Connected)
    (horderly : store.Orderly) (path : String) (content : Bytes) (id : String) :
    (store.put backend path content).2.sight? id =
      match backend.put store.inner path content with
      | .ok _ => (store.sight? id).map (Sight.written path)
      | .error _ => store.sight? id := by
  have hanswer := answer_put backend store path content
  cases hinner : backend.put store.inner path content with
  | error fault =>
    rw [put, hinner]
  | ok inner =>
    rw [hinner] at hanswer
    simp only [sight?, waiters_put]
    cases hwaiter : store.waiters[id]? with
    | none => rfl
    | some waiter =>
      simp only [Option.map_some, Option.some.injEq, sight, Sight.written, Sight.mk.injEq,
        true_and, List.map_map]
      refine List.map_congr_left fun r hr => ?_
      -- the registrations for this path are fired, and no others
      have hfired := fired_put_iff horderly (hconnected id waiter hwaiter r hr) hanswer
      simp only [Function.comp, view, Prod.mk.injEq, true_and, hfired, Bool.decide_or]
      rfl

/-! ### Pending paths -/

/-- A signal has receivers when some waiter holds a registration for it. -/
theorem receivers_ne_zero_iff (store : WaitStore σ) (signal : Nat) :
    store.receivers signal ≠ 0 ↔ ∃ (id : String) (waiter : Waiter),
      store.waiters[id]? = some waiter ∧ ∃ r ∈ waiter.pending, r.signal = signal := by
  rw [ne_eq, receivers_eq_zero_iff]
  simp only [Classical.not_forall, Classical.not_not, exists_prop, ne_eq]

/-- The pending paths are the demands that are not dropped when they are asked for. -/
theorem mem_pendingPaths_iff_demands (store : WaitStore σ) (path : String) :
    path ∈ store.pendingPaths.1 ↔
      ∃ signal, store.demands[path]? = some signal ∧ store.receivers signal ≠ 0 := by
  have hkeys : store.pendingPaths.1 = store.pendingPaths.2.demands.keys := rfl
  rw [hkeys, ExtTreeMap.mem_keys, ExtTreeMap.mem_iff_isSome_getElem?, Option.isSome_iff_exists]
  simp only [demands_pendingPaths_iff]

/-- The pending paths are those that some waiter sees unwritten. -/
theorem mem_pendingPaths_iff {store : WaitStore σ} (hconnected : store.Connected)
    (horderly : store.Orderly) (path : String) :
    path ∈ store.pendingPaths.1 ↔
      ∃ id sight, store.sight? id = some sight ∧ (path, false) ∈ sight.awaited := by
  rw [mem_pendingPaths_iff_demands]
  constructor
  · rintro ⟨signal, hdemand, hreceivers⟩
    obtain ⟨id, waiter, hwaiter, r, hr, rfl⟩ := (store.receivers_ne_zero_iff signal).1 hreceivers
    -- a demanded signal is not fired and belongs to the path of its demand
    have hunfired : r.signal ∉ store.fired := (horderly.demanded ⟨path, r.signal⟩ hdemand).1
    have hpath : r.path = path := horderly.path_eq (hconnected id waiter hwaiter r hr) hdemand
    have hview : store.view r = (path, false) := Prod.ext hpath (decide_eq_false hunfired)
    exact ⟨id, store.sight waiter, sight?_eq_some_iff.2 ⟨waiter, hwaiter, rfl⟩,
      List.mem_map.2 ⟨r, hr, hview⟩⟩
  · rintro ⟨id, _, hsight, hmem⟩
    obtain ⟨waiter, hwaiter, rfl⟩ := sight?_eq_some_iff.1 hsight
    obtain ⟨r, hr, hview⟩ := List.mem_map.1 hmem
    obtain ⟨rfl, hunfired⟩ := Prod.mk.inj hview
    -- a registration that was not fired is still demanded
    have hdemand : store.demands[r.path]? = some r.signal :=
      (hconnected id waiter hwaiter r hr).resolve_left (of_decide_eq_false hunfired)
    exact ⟨r.signal, hdemand, (store.receivers_ne_zero_iff _).2 ⟨id, waiter, hwaiter, r, hr, rfl⟩⟩

/-- The pending paths ascend. -/
theorem pairwise_pendingPaths (store : WaitStore σ) :
    store.pendingPaths.1.Pairwise (compare · · = .lt) :=
  ExtTreeMap.ordered_keys

/-! ### Steps -/

/-- What a waiter sees after a step is a function of what it saw before. -/
theorem sight?_step {store : WaitStore σ} (hconnected : store.Connected) (horderly : store.Orderly)
    (backend : Backend σ) (writeFirst : Nat → Bool) (step : Step) (id : String) :
    (store.step backend writeFirst step).2.sight? id =
      Sight.next backend writeFirst store.inner store.isCancelled id (store.sight? id) step := by
  cases step with
  | start other token paths =>
    rw [Sight.next]
    by_cases hother : other = id
    · subst hother
      rw [if_pos rfl]
      exact (start_eq hconnected horderly backend writeFirst other token paths).2
    · rw [if_neg hother]
      exact sight?_start_of_ne hother writeFirst token paths
  | poll other =>
    refine (sight?_poll hconnected writeFirst other id).trans ?_
    rw [Sight.next]
    by_cases hother : other = id
    · rw [if_pos hother, if_pos hother, hother]
    · rw [if_neg hother, if_neg hother]
  | drop other => exact sight?_dismiss store other id
  | put path content => exact sight?_put hconnected horderly path content id
  | cancel token => rfl
  | get path => rfl
  | stat path => rfl
  | list path => rfl
  | delete path =>
    obtain ⟨inner, hframe⟩ := delete_frame backend store path
    show (store.delete backend path).2.sight? id = store.sight? id
    rw [hframe]
    exact sight?_congr rfl rfl
  | pendingPaths => exact sight?_congr rfl rfl

/-- What a step answers the waiter that it is about is a function of what the waiter saw. -/
theorem answer_step {store : WaitStore σ} (hconnected : store.Connected) (horderly : store.Orderly)
    (backend : Backend σ) (writeFirst : Nat → Bool) {step : Step} {id : String}
    (hstep : step.waiter? = some id) :
    some (store.step backend writeFirst step).1 =
      Sight.answer? backend writeFirst store.inner store.isCancelled (store.sight? id) step := by
  cases step with
  | start other token paths =>
    have hstart := (start_eq hconnected horderly backend writeFirst other token paths).1
    exact congrArg (fun result => some (Answer.waited result)) hstart
  | poll other =>
    obtain rfl := Option.some.inj hstep
    exact congrArg (fun result => some (Answer.waited result))
      (answer_poll hconnected writeFirst other)
  | drop other =>
    obtain rfl := Option.some.inj hstep
    have hlive : decide (other ∈ store.waiters) = (store.sight? other).isSome := by
      rw [sight?, Option.isSome_map]
      simp only [ExtTreeMap.mem_iff_isSome_getElem?, Bool.decide_eq_true]
    exact congrArg (fun wasLive => some (Answer.dropped wasLive)) hlive
  | _ => contradiction

end WaitStore

end RegistryBench.Storage
