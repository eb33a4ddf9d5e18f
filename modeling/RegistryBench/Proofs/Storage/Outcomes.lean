import RegistryBench.Proofs.Storage.Signals
import RegistryBench.Proofs.Storage.WakeUp
import RegistryBench.Proofs.Tables

/-!
# What the end of a wait says

A wait ends well only when each of its paths was there or has been written since; it ends as
cancelled only when its token was cancelled, at the first path that is still to be written; and it
fails only when it begins, at the first path that the backend cannot tell about. No signal is ever
given up (`isGivenUp_of_linked`), so nothing else ends a wait.

* `Registers` says what a waiter registers for, path by path.
* `Holds` follows a waiter from its registrations to those it still holds.
* `justified_of_poll` reads off what a poll returns; `justified_of_start` and `justified_of_later`
  do so for a wait that ends when it is started and for one that ends later.
-/

namespace RegistryBench.Storage.WaitStore

open Std (ExtTreeMap ExtTreeSet)

variable {σ : Type}

/-! ### Registering -/

/-- What a waiter registers for: one registration for each path that is missing, in order. -/
inductive Registers (backend : Backend σ) (inner : σ) : List String → List Registration → Prop
  /-- Nothing is asked for. -/
  | nil : Registers backend inner [] []
  /-- A path that is there needs no registration. -/
  | present {path : String} {paths : List String} {made : List Registration} {info : FileInfo}
      (hstat : backend.stat inner path = .ok info) (hrest : Registers backend inner paths made) :
      Registers backend inner (path :: paths) made
  /-- A path that is missing gets one. -/
  | missing {r : Registration} {named : String} {paths : List String} {made : List Registration}
      (hstat : backend.stat inner r.path = .error (.pathNotFound named))
      (hrest : Registers backend inner paths made) :
      Registers backend inner (r.path :: paths) (r :: made)

/-- Every path that is asked for is there or registered for. -/
theorem Registers.present_or_mem {backend : Backend σ} {inner : σ} {paths : List String}
    {made : List Registration} (h : Registers backend inner paths made) :
    ∀ path ∈ paths, (∃ info, backend.stat inner path = .ok info) ∨
      ∃ r ∈ made, r.path = path := by
  induction h with
  | nil => simp
  | present hstat _ ih => exact List.forall_mem_cons.2 ⟨Or.inl ⟨_, hstat⟩, ih⟩
  | missing hstat _ ih =>
    refine List.forall_mem_cons.2 ⟨Or.inr ⟨_, List.mem_cons_self, rfl⟩, fun path hpath => ?_⟩
    exact (ih path hpath).imp_right fun ⟨r, hr, heq⟩ => ⟨r, List.mem_cons_of_mem _ hr, heq⟩

/-- A registration is for a missing path, and the missing paths asked for before it are those of
the registrations before it. -/
theorem Registers.split {backend : Backend σ} {inner : σ} {paths : List String}
    {done rest : List Registration} {r : Registration}
    (h : Registers backend inner paths (done ++ r :: rest)) :
    ∃ earlier later, paths = earlier ++ r.path :: later ∧
      (∃ named, backend.stat inner r.path = .error (.pathNotFound named)) ∧
      ∀ other ∈ earlier, (∃ info, backend.stat inner other = .ok info) ∨
        ∃ d ∈ done, d.path = other := by
  generalize hmade : done ++ r :: rest = made at h
  induction h generalizing done with
  | nil => simp at hmade
  | present hstat _ ih =>
    obtain ⟨earlier, later, rfl, hmissing, hearlier⟩ := ih hmade
    exact ⟨_ :: earlier, later, rfl, hmissing,
      List.forall_mem_cons.2 ⟨Or.inl ⟨_, hstat⟩, hearlier⟩⟩
  | missing hstat _ ih =>
    cases done with
    | nil =>
      -- the registration is that of the first missing path
      obtain ⟨rfl, -⟩ := List.cons.inj hmade
      exact ⟨[], _, rfl, ⟨_, hstat⟩, by simp⟩
    | cons first done =>
      obtain ⟨rfl, htail⟩ := List.cons.inj hmade
      obtain ⟨earlier, later, rfl, hmissing, hearlier⟩ := ih htail
      refine ⟨_ :: earlier, later, rfl, hmissing,
        List.forall_mem_cons.2 ⟨?_, fun other hother => ?_⟩⟩
      · exact Or.inr ⟨_, List.mem_cons_self, rfl⟩
      · exact (hearlier other hother).imp_right fun ⟨d, hd, heq⟩ =>
          ⟨d, List.mem_cons_of_mem _ hd, heq⟩

/-- A waiter that registers has a demanded signal for each path that is missing. -/
theorem registers_of_register {backend : Backend σ} {paths : List String}
    {made pending : List Registration} {store : WaitStore σ}
    (hmade : ∀ r ∈ made, store.demands[r.path]? = some r.signal)
    (h : (register backend paths made store).1 = .ok pending) :
    (∃ new, pending = made ++ new ∧ Registers backend store.inner paths new) ∧
      ∀ r ∈ pending, (register backend paths made store).2.demands[r.path]? = some r.signal := by
  induction paths generalizing made store with
  | nil =>
    obtain rfl := Except.ok.inj h
    exact ⟨⟨[], (List.append_nil made).symm, .nil⟩, hmade⟩
  | cons path paths ih =>
    rw [register] at h ⊢
    split at h
    next info hstat =>
      obtain ⟨⟨new, rfl, hnew⟩, hdemanded⟩ := ih hmade h
      exact ⟨⟨new, rfl, .present hstat hnew⟩, hdemanded⟩
    next named hstat =>
      obtain ⟨hpath, hdemand⟩ := store.demands_subscribe path
      have hsubscribed : ∀ r ∈ made ++ [(store.subscribe path).1],
          ((store.subscribe path).2.report (.debug reporter "waiting for write"
            [("path", Text.quote path)])).demands[r.path]? = some r.signal := by
        intro r hr
        obtain hr | hr := List.mem_append.1 hr
        · exact demands_subscribe_of_some (hmade r hr) path
        · obtain rfl := List.mem_singleton.1 hr
          rw [hpath]
          exact hdemand
      obtain ⟨⟨new, rfl, hnew⟩, hdemanded⟩ := ih hsubscribed h
      -- the backend is as it was
      obtain ⟨demands, fresh, hframe⟩ := store.subscribe_frame path
      rw [hframe] at hnew
      rw [← hpath] at hstat
      have hnew := Registers.missing hstat hnew
      rw [hpath] at hnew
      exact ⟨⟨_, List.append_assoc _ _ _, hnew⟩, hdemanded⟩
    next => contradiction

/-- A waiter that cannot register fails at the first path that the backend cannot tell about. -/
theorem register_error {backend : Backend σ} {paths : List String} {made : List Registration}
    {store : WaitStore σ} {e : Error} (h : (register backend paths made store).1 = .error e) :
    ∃ earlier path later source, paths = earlier ++ path :: later ∧ e = .stat path source ∧
      backend.stat store.inner path = .error source ∧ (∀ named, source ≠ .pathNotFound named) ∧
      ∀ other ∈ earlier, (∃ info, backend.stat store.inner other = .ok info) ∨
        ∃ named, backend.stat store.inner other = .error (.pathNotFound named) := by
  induction paths generalizing made store with
  | nil => contradiction
  | cons path paths ih =>
    rw [register] at h
    split at h
    next info hstat =>
      obtain ⟨earlier, failed, later, source, rfl, he, hfailed, hsource, hearlier⟩ := ih h
      exact ⟨path :: earlier, failed, later, source, rfl, he, hfailed, hsource,
        List.forall_mem_cons.2 ⟨Or.inl ⟨info, hstat⟩, hearlier⟩⟩
    next named hstat =>
      obtain ⟨earlier, failed, later, source, rfl, he, hfailed, hsource, hearlier⟩ :=
        @ih _ ((store.subscribe path).2.report _) h
      -- the backend is as it was
      obtain ⟨demands, fresh, hframe⟩ := store.subscribe_frame path
      rw [hframe] at hfailed hearlier
      exact ⟨path :: earlier, failed, later, source, rfl, he, hfailed, hsource,
        List.forall_mem_cons.2 ⟨Or.inr ⟨named, hstat⟩, hearlier⟩⟩
    next source hsource hstat =>
      exact ⟨[], path, paths, source, rfl, (Except.error.inj h).symm, hstat,
        fun named heq => hsource named heq, by simp⟩

/-! ### Going through registrations -/

/-- Registrations that were gone through were fired. -/
theorem exists_fired_of_advance (store : WaitStore σ) (writeFirst : Nat → Bool)
    (isCancelled : Bool) (pending : List Registration) :
    ∃ done, pending = done ++ (store.advance writeFirst isCancelled pending).2.1 ∧
      ∀ r ∈ done, r.signal ∈ store.fired := by
  induction pending with
  | nil => exact ⟨[], rfl, by simp⟩
  | cons r rest ih =>
    rw [advance]
    split
    next hfired =>
      obtain ⟨done, hdone, hall⟩ := ih
      exact ⟨r :: done, congrArg (r :: ·) hdone, List.forall_mem_cons.2 ⟨hfired.1, hall⟩⟩
    next =>
      split
      · exact ⟨[], rfl, by simp⟩
      · exact ⟨[], rfl, by simp⟩

/-- How a waiter that has gone through registrations can have finished: all of them were fired, or
it stopped at the first that was not, or at a fired one, for its cancellation. -/
theorem advance_some {store : WaitStore σ} {writeFirst : Nat → Bool} {isCancelled : Bool}
    {pending : List Registration} {result : WaitResult}
    (h : (store.advance writeFirst isCancelled pending).2.2 = some result) :
    (result = .ok () ∧ ∀ r ∈ pending, r.signal ∈ store.fired) ∨
      ∃ done r rest, pending = done ++ r :: rest ∧ (∀ d ∈ done, d.signal ∈ store.fired) ∧
        result = .error (.cancelled r.path) ∧
        (isCancelled = true ∨ store.isGivenUp r.signal = true) := by
  induction pending with
  | nil => exact Or.inl ⟨(Option.some.inj h).symm, by simp⟩
  | cons r rest ih =>
    rw [advance] at h
    split at h
    next hfired =>
      -- the first registration is done with, and the rest says how it ended
      obtain ⟨hok, hall⟩ | ⟨done, stop, left, rfl, hall, herror, hwhy⟩ := ih h
      · exact Or.inl ⟨hok, List.forall_mem_cons.2 ⟨hfired.1, hall⟩⟩
      · exact Or.inr ⟨r :: done, stop, left, rfl,
          List.forall_mem_cons.2 ⟨hfired.1, hall⟩, herror, hwhy⟩
    next =>
      split at h
      next hwhy =>
        exact Or.inr ⟨[], r, rest, rfl, by simp, (Option.some.inj h).symm, hwhy⟩
      next => contradiction

/-- The signal of a linked registration is not given up. -/
theorem isGivenUp_of_linked {store : WaitStore σ} {r : Registration} (h : store.Linked r) :
    store.isGivenUp r.signal = false := by
  obtain hfired | hdemand := h
  · simp [isGivenUp, hfired]
  · have hvalue : r.signal ∈ store.demands.values :=
      (Tables.mem_values_iff store.demands r.signal).2 ⟨_, hdemand⟩
    simp [isGivenUp, hvalue]

/-! ### What a waiter holds -/

/-- The waiter, if it is there, has this token and still holds some of these registrations; those
it no longer holds were fired. -/
def Holds (store : WaitStore σ) (id token : String) (made : List Registration) : Prop :=
  ∀ waiter, store.waiters[id]? = some waiter → waiter.token = token ∧
    ∃ done, made = done ++ waiter.pending ∧ ∀ r ∈ done, r.signal ∈ store.fired

/-- A waiter that has just registered holds all of its registrations. -/
theorem holds_enrol (store : WaitStore σ) (id token : String) (made : List Registration) :
    (store.enrol id ⟨token, made⟩).Holds id token made := by
  intro waiter hwaiter
  rw [enrol, ExtTreeMap.getElem?_insert_self, Option.some.injEq] at hwaiter
  subst hwaiter
  exact ⟨rfl, [], rfl, by simp⟩

/-- Polling takes from a waiter only registrations whose signals were fired. -/
theorem Holds.poll {store : WaitStore σ} {id token : String} {made : List Registration}
    (h : store.Holds id token made) (writeFirst : Nat → Bool) :
    (store.poll writeFirst id).2.Holds id token made := by
  intro waiter hwaiter
  rw [fired_poll]
  obtain hsame | ⟨polled, hpolled, hstays | hgoes⟩ := store.poll_cases writeFirst id
  · rw [hsame] at hwaiter
    exact h waiter hwaiter
  · rw [hstays, goOn, ExtTreeMap.getElem?_insert_self, Option.some.injEq] at hwaiter
    subst hwaiter
    -- gone through now, after what was gone through before
    obtain ⟨htoken, before, hmade, hbefore⟩ := h polled hpolled
    obtain ⟨now, hpending, hnow⟩ := exists_fired_of_advance store writeFirst
      (polled.token ∈ store.cancelledTokens) polled.pending
    refine ⟨htoken, before ++ now, ?_, fun r hr => ?_⟩
    · rw [List.append_assoc, ← hpending, hmade]
    · exact (List.mem_append.1 hr).elim (hbefore r) (hnow r)
  · rw [hgoes] at hwaiter
    exact absurd rfl (waiter_of_dismiss hwaiter).1

/-- No step takes anything else from a waiter, unless it is started anew. -/
theorem Holds.step {store : WaitStore σ} {id token : String} {made : List Registration}
    (h : store.Holds id token made) {step : Step}
    (hstep : ∀ token paths, step ≠ .start id token paths) (backend : Backend σ)
    (writeFirst : Nat → Bool) :
    (store.step backend writeFirst step).2.Holds id token made := by
  by_cases habout : step.waiter? = some id
  · cases step with
    | start other token' paths =>
      obtain rfl : other = id := Option.some.inj habout
      exact absurd rfl (hstep token' paths)
    | poll other =>
      obtain rfl : other = id := Option.some.inj habout
      exact h.poll writeFirst
    | drop other =>
      obtain rfl : other = id := Option.some.inj habout
      exact fun waiter hwaiter => absurd rfl (waiter_of_dismiss hwaiter).1
    | _ => contradiction
  · -- a step that is not about the waiter leaves it, and what was fired stays fired
    intro waiter hwaiter
    rw [getElem?_waiters_step_of_ne habout] at hwaiter
    obtain ⟨htoken, done, hmade, hdone⟩ := h waiter hwaiter
    exact ⟨htoken, done, hmade, fun r hr => fired_step_of_fired (hdone r hr) step⟩

/-- A waiter holds what it has registered for, save what was fired, until it is started anew. -/
theorem holds_after {store : WaitStore σ} {id token : String} {made : List Registration}
    (h : store.Holds id token made) {moves : List Move}
    (hmoves : ∀ m ∈ moves, ∀ token paths, m.step ≠ .start id token paths) (backend : Backend σ) :
    (store.after backend moves).Holds id token made := by
  induction moves generalizing store with
  | nil => exact h
  | cons m moves ih =>
    obtain ⟨hm, hmoves⟩ := List.forall_mem_cons.1 hmoves
    exact ih (h.step hm backend m.writeFirst) hmoves

/-! ### Results -/

/-- What the result of a wait says about the paths it asked for, with the backend as it was when the
wait began: whether its token was cancelled, which paths were written since, and whether it ended
when it began. -/
inductive Justified (backend : Backend σ) (inner : σ) (paths : List String) (isCancelled : Prop)
    (isWritten : String → Prop) (isAtOnce : Prop) : WaitResult → Prop
  /-- Every path was there or has been written. -/
  | ok (hpaths : ∀ path ∈ paths, (∃ info, backend.stat inner path = .ok info) ∨ isWritten path) :
      Justified backend inner paths isCancelled isWritten isAtOnce (.ok ())
  /-- The token was cancelled. The path was missing, and the missing ones before it have been
  written. -/
  | cancelled {earlier later : List String} {path named : String}
      (hpaths : paths = earlier ++ path :: later)
      (hmissing : backend.stat inner path = .error (.pathNotFound named))
      (hearlier : ∀ other ∈ earlier,
        (∃ info, backend.stat inner other = .ok info) ∨ isWritten other)
      (htoken : isCancelled) :
      Justified backend inner paths isCancelled isWritten isAtOnce (.error (.cancelled path))
  /-- The backend could not tell about the path, but about all before it. -/
  | stat {earlier later : List String} {path : String} {source : Fault}
      (hpaths : paths = earlier ++ path :: later)
      (hstat : backend.stat inner path = .error source)
      (hsource : ∀ named, source ≠ .pathNotFound named)
      (hearlier : ∀ other ∈ earlier, (∃ info, backend.stat inner other = .ok info) ∨
        ∃ named, backend.stat inner other = .error (.pathNotFound named))
      (hbegin : isAtOnce) :
      Justified backend inner paths isCancelled isWritten isAtOnce (.error (.stat path source))

/-- A poll returns what going through the registrations gives. -/
theorem result_poll_of_some {store : WaitStore σ} {id : String} {waiter : Waiter}
    (h : store.waiters[id]? = some waiter) (writeFirst : Nat → Bool) :
    (store.poll writeFirst id).1 =
      (store.advance writeFirst (waiter.token ∈ store.cancelledTokens) waiter.pending).2.2 := by
  rw [poll_of_some h]
  split
  next heq => exact heq.symm
  next heq => exact heq.symm

/-- A poll returns what the registrations of the waiter justify. -/
theorem justified_of_poll {backend : Backend σ} {inner : σ} {store : WaitStore σ}
    (hstore : store.Connected) {id token : String} {paths : List String}
    {made : List Registration} (hmade : Registers backend inner paths made)
    (hholds : store.Holds id token made) {isCancelled : Prop}
    (hcancelled : token ∈ store.cancelledTokens → isCancelled) {isWritten : String → Prop}
    (hwritten : ∀ r ∈ made, r.signal ∈ store.fired → isWritten r.path) {isAtOnce : Prop}
    {writeFirst : Nat → Bool} {result : WaitResult}
    (h : (store.poll writeFirst id).1 = some result) :
    Justified backend inner paths isCancelled isWritten isAtOnce result := by
  cases hwaiter : store.waiters[id]? with
  | none =>
    rw [poll_of_none hwaiter] at h
    contradiction
  | some waiter =>
    obtain ⟨htoken, before, rfl, hbefore⟩ := hholds waiter hwaiter
    rw [result_poll_of_some hwaiter] at h
    obtain ⟨rfl, hall⟩ | ⟨done, r, rest, hpending, hdone, rfl, hwhy⟩ := advance_some h
    · refine .ok fun path hpath => (hmade.present_or_mem path hpath).imp_right ?_
      rintro ⟨r, hr, rfl⟩
      exact hwritten r hr ((List.mem_append.1 hr).elim (hbefore r) (hall r))
    · -- stopped at a registration: all before it were gone through, now or earlier
      rw [hpending, ← List.append_assoc] at hmade hwritten
      obtain ⟨earlier, later, rfl, ⟨named, hmissing⟩, hearlier⟩ := hmade.split
      refine .cancelled rfl hmissing (fun other hother => ?_) ?_
      · refine (hearlier other hother).imp_right ?_
        rintro ⟨d, hd, rfl⟩
        exact hwritten d (List.mem_append_left _ hd)
          ((List.mem_append.1 hd).elim (hbefore d) (hdone d))
      · have hheld : r ∈ waiter.pending := hpending ▸ List.mem_append_right _ List.mem_cons_self
        rw [isGivenUp_of_linked (hstore id waiter hwaiter r hheld), htoken] at hwhy
        exact hcancelled (of_decide_eq_true (hwhy.resolve_right Bool.false_ne_true))

/-! ### Cancellations -/

/-- A token is cancelled in a run. -/
def Cancels (moves : List Move) (token : String) : Prop :=
  ∃ m ∈ moves, m.step = .cancel token

/-- Only cancelling a token makes it cancelled. -/
theorem cancelledTokens_step {backend : Backend σ} {writeFirst : Nat → Bool} {store : WaitStore σ}
    {step : Step} (hstep : ∀ token, step ≠ .cancel token) :
    (store.step backend writeFirst step).2.cancelledTokens = store.cancelledTokens := by
  -- starting goes through a dismissal and a poll, and neither changes the tokens
  have hdismiss (store : WaitStore σ) (id : String) :
      (store.dismiss id).cancelledTokens = store.cancelledTokens := by
    obtain ⟨demands, hframe⟩ := store.dismiss_frame id
    rw [hframe]
  have hpoll (store : WaitStore σ) (id : String) :
      (store.poll writeFirst id).2.cancelledTokens = store.cancelledTokens := by
    obtain hsame | ⟨polled, -, hstays | hgoes⟩ := store.poll_cases writeFirst id
    · rw [hsame]
    · rw [hstays]
      rfl
    · rw [hgoes, hdismiss]
      rfl
  cases step with
  | start id token paths =>
    obtain ⟨demands, fresh, log, hframe⟩ := register_dismiss_frame backend store id paths
    show (store.start backend writeFirst id token paths).2.cancelledTokens = store.cancelledTokens
    obtain herror | ⟨pending, -, hstart⟩ := start_cases backend writeFirst store id token paths
    · rw [herror, hframe]
    · rw [hstart, hpoll, hframe]
      rfl
  | poll id => exact hpoll store id
  | drop id => exact hdismiss store id
  | cancel token => exact absurd rfl (hstep token)
  | put path content =>
    show (store.put backend path content).2.cancelledTokens = store.cancelledTokens
    obtain ⟨_, -, hput⟩ | ⟨_, _, -, ⟨-, hput⟩ | ⟨_, -, hput⟩⟩ :=
      put_cases backend store path content
    · rw [hput]
    · rw [hput]
    · rw [hput]
  | get path => rfl
  | stat path => rfl
  | list path => rfl
  | delete path =>
    obtain ⟨inner, hframe⟩ := delete_frame backend store path
    show (store.delete backend path).2.cancelledTokens = store.cancelledTokens
    rw [hframe]
  | pendingPaths => rfl

/-- A token that is cancelled after a run was so before, or was cancelled in the run. -/
theorem cancels_of_mem_after {backend : Backend σ} {store : WaitStore σ} {moves : List Move}
    {token : String} (h : token ∈ (store.after backend moves).cancelledTokens) :
    token ∈ store.cancelledTokens ∨ Cancels moves token := by
  induction moves generalizing store with
  | nil => exact Or.inl h
  | cons m moves ih =>
    obtain hnow | ⟨later, hlater, hcancel⟩ := ih h
    · obtain ⟨writeFirst, step⟩ := m
      by_cases hstep : ∃ other, step = .cancel other
      · obtain ⟨other, rfl⟩ := hstep
        obtain heq | hbefore := ExtTreeSet.mem_insert.1 hnow
        · rw [← Std.compare_eq_iff_eq.1 heq]
          exact Or.inr ⟨_, List.mem_cons_self, rfl⟩
        · exact Or.inl hbefore
      · have hsame : (store.step backend writeFirst step).2.cancelledTokens =
            store.cancelledTokens := cancelledTokens_step fun other heq => hstep ⟨other, heq⟩
        exact Or.inl (hsame ▸ hnow)
    · exact Or.inr ⟨later, List.mem_cons_of_mem _ hlater, hcancel⟩

/-! ### Whole waits -/

/-- The store in which a waiter goes through its registrations, and the waiter, when a step polls
one. -/
def polled? (backend : Backend σ) (store : WaitStore σ) : Step → Option (WaitStore σ × Waiter)
  | .start id token paths =>
    match register backend paths [] (store.dismiss id) with
    | (.ok pending, store) => some (store.enrol id ⟨token, pending⟩, ⟨token, pending⟩)
    | (.error _, _) => none
  | .poll id => store.waiters[id]?.map fun waiter => (store, waiter)
  | _ => none

/-- The run of a wait with its result: it is started, and returns at once or when it is polled for
the last time; meanwhile anything may happen but that its place is taken by another wait. -/
inductive Returns (backend : Backend σ) (store : WaitStore σ) (id token : String)
    (paths : List String) : List Move → WaitResult → Prop
  /-- The wait returns when it is started. -/
  | atOnce {writeFirst : Nat → Bool} {result : WaitResult}
      (h : (store.start backend writeFirst id token paths).1 = some result) :
      Returns backend store id token paths [⟨writeFirst, .start id token paths⟩] result
  /-- The wait returns when it is polled. -/
  | polled {writeFirst writeFirst' : Nat → Bool} {moves : List Move} {result : WaitResult}
      (hmoves : ∀ m ∈ moves, ∀ token paths, m.step ≠ .start id token paths)
      (h : ((store.after backend (⟨writeFirst, .start id token paths⟩ :: moves)).poll
        writeFirst' id).1 = some result) :
      Returns backend store id token paths
        (⟨writeFirst, .start id token paths⟩ :: moves ++ [⟨writeFirst', .poll id⟩]) result

/-- What holds of a wait that has just registered. -/
structure Enrolled (backend : Backend σ) (idle store : WaitStore σ) (id token : String)
    (paths : List String) (made : List Registration) : Prop where
  /-- It has registered for the missing paths. -/
  registers : Registers backend idle.inner paths made
  /-- It holds what it has registered for. -/
  holds : store.Holds id token made
  /-- No other path has its signals. -/
  exclusive : ∀ r ∈ made, store.Exclusive r
  /-- Its signals have not been fired. -/
  unfired : ∀ r ∈ made, r.signal ∉ store.fired
  /-- All registrations are linked. -/
  connected : store.Connected
  /-- Cancellations are as they were. -/
  cancelledTokens_eq : store.cancelledTokens = idle.cancelledTokens

/-- A waiter that has registered for its paths is enrolled with one registration for each. -/
theorem enrolled_of_register {backend : Backend σ} {idle : WaitStore σ}
    (hconnected : idle.Connected)
    (horderly : idle.Orderly) {id : String} {paths : List String} {made : List Registration}
    (hok : (register backend paths [] (idle.dismiss id)).1 = .ok made) (token : String) :
    Enrolled backend idle ((register backend paths [] (idle.dismiss id)).2.enrol id ⟨token, made⟩)
      id token paths made := by
  obtain ⟨⟨new, rfl, hnew⟩, hdemanded⟩ := registers_of_register (by simp) hok
  have horderly : ((register backend paths [] (idle.dismiss id)).2.enrol id
      ⟨token, made⟩).Orderly :=
    (renews_enrol _ _ _).orderly ((renews_register _ _ _ _).orderly
      ((renews_dismiss idle id).orderly horderly))
  refine ⟨?_, holds_enrol _ _ _ _, fun r hr => (horderly.demanded r (hdemanded r hr)).2,
    fun r hr => (horderly.demanded r (hdemanded r hr)).1, hconnected.enrol hok token, ?_⟩
  · obtain ⟨demands, hframe⟩ := idle.dismiss_frame id
    rw [hframe] at hnew
    exact hnew
  · obtain ⟨demands, fresh, log, hframe⟩ := register_dismiss_frame backend idle id paths
    rw [hframe]
    rfl

/-- A wait that returns when it is started has not seen a write. -/
theorem justified_of_start {backend : Backend σ} {idle : WaitStore σ} (hconnected : idle.Connected)
    (horderly : idle.Orderly) {id token : String} {paths : List String}
    {writeFirst : Nat → Bool} {result : WaitResult}
    (h : (idle.start backend writeFirst id token paths).1 = some result) {isCancelled : Prop}
    (hcancelled : token ∈ idle.cancelledTokens → isCancelled) (isWritten : String → Prop)
    {isAtOnce : Prop} (hatOnce : isAtOnce) :
    Justified backend idle.inner paths isCancelled isWritten isAtOnce result := by
  cases hregister : (register backend paths [] (idle.dismiss id)).1 with
  -- the wait ends while it registers, or else with its first poll
  | error e =>
    rw [start_of_error hregister] at h
    obtain rfl := Option.some.inj h
    obtain ⟨earlier, path, later, source, hpaths, rfl, hstat, hsource, hearlier⟩ :=
      register_error hregister
    obtain ⟨demands, hframe⟩ := idle.dismiss_frame id
    rw [hframe] at hstat hearlier
    exact .stat hpaths hstat hsource hearlier hatOnce
  | ok made =>
    have henrolled := enrolled_of_register hconnected horderly hregister token
    rw [start_of_ok hregister] at h
    exact justified_of_poll henrolled.connected henrolled.registers henrolled.holds
      (fun htoken => hcancelled (henrolled.cancelledTokens_eq ▸ htoken))
      (fun r hr hfired => absurd hfired (henrolled.unfired r hr)) h

/-- A wait that returns when it is polled has seen what was written since it was started. -/
theorem justified_of_later {backend : Backend σ} {idle : WaitStore σ} (hconnected : idle.Connected)
    (horderly : idle.Orderly) {id token : String} {paths : List String}
    {writeFirst writeFirst' : Nat → Bool} {moves : List Move}
    (hmoves : ∀ m ∈ moves, ∀ token paths, m.step ≠ .start id token paths) {result : WaitResult}
    (h : (((idle.start backend writeFirst id token paths).2.after backend moves).poll
      writeFirst' id).1 = some result) {isCancelled : Prop}
    (hcancelled : token ∈ idle.cancelledTokens ∨ Cancels moves token → isCancelled)
    {isWritten : String → Prop}
    (hwritten : ∀ path, (idle.start backend writeFirst id token paths).2.Wrote backend moves path →
      isWritten path) (isAtOnce : Prop) :
    Justified backend idle.inner paths isCancelled isWritten isAtOnce result := by
  have hconnected' : (idle.start backend writeFirst id token paths).2.Connected :=
    hconnected.start backend writeFirst id token paths
  cases hregister : (register backend paths [] (idle.dismiss id)).1 with
  | error e =>
    -- a waiter that could not register is not there to be polled
    have hnone : ((idle.start backend writeFirst id token paths).2.after backend moves).waiters[id]?
        = none := by
      rw [Option.eq_none_iff_forall_ne_some]
      intro waiter hwaiter
      obtain ⟨before, hbefore, -⟩ := continues_of_after hmoves hwaiter
      obtain ⟨made, hok, -⟩ := registered_of_start hbefore
      exact absurd (hregister.symm.trans hok) nofun
    rw [poll_of_none hnone] at h
    contradiction
  | ok made =>
    have henrolled := enrolled_of_register hconnected horderly hregister token
    have hrenews := renews_poll ((register backend paths [] (idle.dismiss id)).2.enrol id
      ⟨token, made⟩) writeFirst id
    have hholds := henrolled.holds.poll writeFirst
    rw [← start_of_ok hregister] at hrenews hholds
    refine justified_of_poll (connected_after hconnected' backend moves) henrolled.registers
      (holds_after hholds hmoves backend) (fun htoken => hcancelled ?_) (fun r hr hfired => ?_) h
    · refine (cancels_of_mem_after htoken).imp_left fun htoken => ?_
      have hsame : (idle.start backend writeFirst id token paths).2.cancelledTokens =
          idle.cancelledTokens :=
        @cancelledTokens_step σ backend writeFirst idle (.start id token paths) nofun
      rwa [hsame] at htoken
    · refine hwritten r.path
        (wrote_of_fired (hrenews.exclusive (henrolled.exclusive r hr)) ?_ hfired)
      rw [hrenews.fired_eq]
      exact henrolled.unfired r hr

/-- A step that polls a waiter answers what the poll returns, and all registrations are linked when
it does. -/
theorem poll_of_polled {backend : Backend σ} {idle : WaitStore σ} (h : idle.Connected) {step : Step}
    {examined : WaitStore σ} {waiter : Waiter}
    (hpolled : idle.polled? backend step = some (examined, waiter)) (writeFirst : Nat → Bool) :
    examined.Connected ∧ ∃ id, examined.waiters[id]? = some waiter ∧
      (idle.step backend writeFirst step).1 = .waited (examined.poll writeFirst id).1 := by
  cases step with
  | start id token paths =>
    rw [polled?] at hpolled
    split at hpolled
    next made registered hregister =>
      obtain ⟨rfl, rfl⟩ := Prod.mk.inj (Option.some.inj hpolled)
      have hok : (register backend paths [] (idle.dismiss id)).1 = .ok made := by rw [hregister]
      -- the waiter is polled just after it was put among the others
      have hconnected := h.enrol hok token
      have hstart := start_of_ok hok writeFirst token
      rw [hregister] at hconnected hstart
      refine ⟨hconnected, id, ExtTreeMap.getElem?_insert_self, ?_⟩
      exact congrArg (fun outcome => Answer.waited outcome.1) hstart
    next => contradiction
  | poll id =>
    obtain ⟨held, hheld, heq⟩ := Option.map_eq_some_iff.1 hpolled
    obtain ⟨rfl, rfl⟩ := Prod.mk.inj heq
    exact ⟨h, id, hheld, rfl⟩
  | _ => contradiction

/-- Every wait ends as its paths, the writes since it began and the cancellations justify: well,
only if each path was there or has been written since; as cancelled, only if its token was cancelled
and at a path that was missing, after those before it that were missing have been written; and with
an error of the backend, only when it begins and at the first path that the backend cannot tell
about. No poll ever comes upon a signal that was given up. -/
theorem wait_justified (backend : Backend σ) (inner : σ) (before : List Move) :
    let idle := (init inner).after backend before
    (∀ (id token : String) (paths : List String) (run : List Move) (result : WaitResult),
      idle.Returns backend id token paths run result →
        Justified backend idle.inner paths (Cancels (before ++ run) token)
          (idle.Wrote backend run) (run.length = 1) result) ∧
      ∀ (step : Step) (examined : WaitStore σ) (waiter : Waiter) (writeFirst : Nat → Bool),
        idle.polled? backend step = some (examined, waiter) →
          (idle.move backend ⟨writeFirst, step⟩).1 = .waited (examined.advance writeFirst
            (waiter.token ∈ examined.cancelledTokens) waiter.pending).2.2 ∧
          ∀ r ∈ waiter.pending, examined.isGivenUp r.signal = false := by
  intro idle
  have hconnected : idle.Connected := connected_after (connected_init inner) backend before
  have horderly : idle.Orderly := orderly_after (orderly_init inner) backend before
  -- before anything was done no token is cancelled, so each cancellation is one of the run
  have hcancelled {run : List Move} {token : String}
      (h : token ∈ idle.cancelledTokens ∨ Cancels run token) : Cancels (before ++ run) token := by
    obtain hbefore | ⟨m, hm, hcancel⟩ := h
    · obtain hinit | ⟨m, hm, hcancel⟩ := cancels_of_mem_after hbefore
      · simp [init] at hinit
      · exact ⟨m, List.mem_append_left _ hm, hcancel⟩
    · exact ⟨m, List.mem_append_right _ hm, hcancel⟩
  refine ⟨fun id token paths run result h => ?_, fun step examined waiter writeFirst h => ?_⟩
  · cases h with
    | atOnce h =>
      exact justified_of_start hconnected horderly h
        (fun htoken => hcancelled (Or.inl htoken)) _ rfl
    | polled hmoves h =>
      refine justified_of_later hconnected horderly hmoves h
        (fun hwhy => hcancelled (hwhy.imp_right ?_)) (fun path hwrote => ?_) _
      · rintro ⟨m, hm, hcancel⟩
        exact ⟨m, List.mem_append_left _ (List.mem_cons_of_mem _ hm), hcancel⟩
      · exact ((wrote_cons_iff _ _ _ _ _).2 (Or.inr hwrote)).append _
  · obtain ⟨hexamined, id, hwaiter, hanswer⟩ := poll_of_polled hconnected h writeFirst
    refine ⟨hanswer.trans (congrArg _ (result_poll_of_some hwaiter writeFirst)), fun r hr => ?_⟩
    exact isGivenUp_of_linked (hexamined id waiter hwaiter r hr)

section GivingUp

/-- A store with one file. -/
def furnished : List Move := [⟨cancelFirst, .put "/there" []⟩]

/-- What happens while a wait for three paths goes on: one that shares a signal is cancelled, one of
the two missing paths is written, and the wait itself is cancelled. -/
def interrupted : List Move :=
  [.start "second" "other" ["/a"], .cancel "other", .poll "second", .put "/a" [], .pendingPaths,
    .cancel "mine"].map (⟨cancelFirst, ·⟩)

/-- The run of the wait. It notices the write first, and is polled once more in the end. -/
def interruptedRun : List Move :=
  ⟨cancelFirst, .start "first" "mine" ["/there", "/a", "/b"]⟩ :: interrupted ++
    [⟨fun _ => true, .poll "first"⟩]

/-- A wait that is cancelled names the path that is still to be written. -/
theorem wait_justified_interrupted :
    let idle := (init Files.empty).after Files.backend furnished
    idle.Returns Files.backend "first" "mine" ["/there", "/a", "/b"] interruptedRun
        (.error (.cancelled "/b")) ∧
      Justified Files.backend idle.inner ["/there", "/a", "/b"]
        (Cancels (furnished ++ interruptedRun) "mine") (idle.Wrote Files.backend interruptedRun)
        (interruptedRun.length = 1) (.error (.cancelled "/b")) ∧
      ∃ examined waiter,
        idle.polled? Files.backend (.start "first" "mine" ["/there", "/a", "/b"]) =
          some (examined, waiter) ∧
        ∀ r ∈ waiter.pending, examined.isGivenUp r.signal = false := by
  intro idle
  obtain ⟨hjustified, hpolled⟩ := wait_justified Files.backend Files.empty furnished
  have hreturns : idle.Returns Files.backend "first" "mine" ["/there", "/a", "/b"] interruptedRun
      (.error (.cancelled "/b")) := by
    refine .polled (by simp [interrupted]) ?_
    decide +kernel
  have hstart : (idle.polled? Files.backend
      (.start "first" "mine" ["/there", "/a", "/b"])).isSome = true := by
    decide +kernel
  obtain ⟨⟨examined, waiter⟩, hsome⟩ := Option.isSome_iff_exists.1 hstart
  exact ⟨hreturns, hjustified _ _ _ _ _ hreturns, examined, waiter, hsome,
    (hpolled _ _ _ cancelFirst hsome).2⟩

end GivingUp

end RegistryBench.Storage.WaitStore
