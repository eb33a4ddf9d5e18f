import Mathlib.Data.List.Induction
import RegistryBench.Proofs.Storage.Sight

/-!
# Demands are held

A demand is there for a waiter that holds its signal, and for nobody else. However a wait ends,
and when it fails while it registers, what only it demanded is dropped with it: nothing is left
behind for `pendingPaths` to drop.

* `Tidy` says whose registrations the demands are; every step keeps it (`Tidy.step`).
* `outstanding_iff` finds the registrations whose paths have not been written since they were made
  among those that waiters hold: their signals have not been fired.
* `pendingPaths_exact` puts both together for every run.
-/

namespace RegistryBench.Storage.WaitStore

open Std (ExtTreeMap ExtTreeSet)

variable {σ : Type} {store : WaitStore σ} {loose : List Registration}

/-- Some waiter holds the registration. -/
def Held (store : WaitStore σ) (r : Registration) : Prop :=
  ∃ (id : String) (waiter : Waiter), store.waiters[id]? = some waiter ∧ r ∈ waiter.pending

/-- Every demand is that of a registration: of one that a waiter holds, or of a loose one. Loose are
those that a waiter has made and not got yet, and those of a waiter that has just gone. -/
structure Tidy (store : WaitStore σ) (loose : List Registration) : Prop where
  /-- All registrations are linked. -/
  connected : store.Connected
  /-- Signals are kept apart. -/
  orderly : store.Orderly
  /-- No demand is left behind. -/
  covered : ∀ r : Registration, store.demands[r.path]? = some r.signal → store.Held r ∨ r ∈ loose

/-- Where nothing is loose, every demand is held. -/
theorem Tidy.held (h : store.Tidy []) {r : Registration}
    (hdemand : store.demands[r.path]? = some r.signal) : store.Held r :=
  (h.covered r hdemand).resolve_right List.not_mem_nil

theorem tidy_init (inner : σ) : (init inner).Tidy [] where
  connected := connected_init inner
  orderly := orderly_init inner
  covered r h := by simp [init] at h

/-! ### Dropping demands -/

/-- Demands may be dropped while the waiters stay. -/
theorem Tidy.mono {store' : WaitStore σ} (h : store.Tidy loose) (hconnected : store'.Connected)
    (horderly : store.Orderly → store'.Orderly) (hwaiters : store'.waiters = store.waiters)
    (hdemands : ∀ r : Registration, store'.demands[r.path]? = some r.signal →
      store.demands[r.path]? = some r.signal) : store'.Tidy loose := by
  refine ⟨hconnected, horderly h.orderly, fun r hr => ?_⟩
  unfold Held
  rw [hwaiters]
  exact h.covered r (hdemands r hr)

/-- Neither the backend nor cancellations nor the report matter. -/
theorem Tidy.congr {store' : WaitStore σ} (h : store.Tidy loose)
    (hdemands : store'.demands = store.demands) (hfired : store'.fired = store.fired)
    (hfresh : store'.fresh = store.fresh) (hwaiters : store'.waiters = store.waiters) :
    store'.Tidy loose := by
  have hconnected : store'.Connected := by
    intro id waiter hwaiter r hr
    rw [hwaiters] at hwaiter
    unfold Linked
    rw [hfired, hdemands]
    exact h.connected id waiter hwaiter r hr
  exact h.mono hconnected (renews_of_same hfired hfresh hdemands).orderly hwaiters
    fun _ hr => hdemands ▸ hr

/-- The signal of a demand has receivers only if some waiter holds the very registration: a signal
has one path. -/
theorem Tidy.receivers_eq_zero (h : store.Tidy loose) {r : Registration}
    (hdemand : store.demands[r.path]? = some r.signal) (hfree : ¬ store.Held r) :
    store.receivers r.signal = 0 := by
  rw [receivers_eq_zero_iff]
  intro id waiter hwaiter other hother hsignal
  have hlinked : store.Linked other := h.connected id waiter hwaiter other hother
  have hpath : other.path = r.path := h.orderly.path_eq hlinked (hsignal ▸ hdemand)
  obtain rfl : other = r := by
    cases other
    cases r
    rw [Registration.mk.injEq]
    exact ⟨hpath, hsignal⟩
  exact hfree ⟨id, waiter, hwaiter, hother⟩

/-- Once the demands of loose registrations are released, there are none but those held. -/
theorem Tidy.release (h : store.Tidy loose) :
    (store.release (loose.map Registration.path)).Tidy [] := by
  refine ⟨h.connected.release _, (renews_release _ _).orderly h.orderly, fun r hr => Or.inl ?_⟩
  obtain ⟨hdemand, hkept⟩ := (demands_release_iff _ _ _ _).1 hr
  have hheld : store.Held r := by
    rcases h.covered r hdemand with hheld | hloose
    · exact hheld
    · -- nobody would hold the signal of a loose registration, and its demand would be dropped
      apply Classical.byContradiction
      intro hfree
      exact hkept ⟨List.mem_map_of_mem hloose, h.receivers_eq_zero hdemand hfree⟩
  obtain ⟨demands, hframe⟩ := store.release_frame (loose.map Registration.path)
  rw [hframe]
  exact hheld

/-- The registrations of a waiter that is taken away are loose. -/
theorem Tidy.erase (h : store.Tidy []) {id : String} {waiter : Waiter}
    (hwaiter : store.waiters[id]? = some waiter) :
    ({ store with waiters := store.waiters.erase id } : WaitStore σ).Tidy waiter.pending := by
  have hrenews : store.Renews { store with waiters := store.waiters.erase id } :=
    renews_of_same rfl rfl rfl
  refine ⟨h.connected.erase id, hrenews.orderly h.orderly, fun r hr => ?_⟩
  obtain ⟨holder, held, hheld, hmem⟩ := h.held hr
  by_cases hholder : id = holder
  · -- held by the waiter that goes
    subst hholder
    obtain rfl := Option.some.inj (hwaiter.symm.trans hheld)
    exact Or.inr hmem
  · refine Or.inl ⟨holder, held, ?_, hmem⟩
    simp only [ExtTreeMap.getElem?_erase, Std.compare_eq_iff_eq, if_neg hholder]
    exact hheld

/-- A waiter that goes leaves nothing behind. -/
theorem Tidy.dismiss (h : store.Tidy []) (id : String) : (store.dismiss id).Tidy [] := by
  rw [WaitStore.dismiss]
  split
  next waiter hwaiter => exact (h.erase hwaiter).release
  next => exact h

/-! ### Registering -/

/-- A subscription adds a loose registration. -/
theorem Tidy.subscribe (h : store.Tidy loose) (path : String) :
    (store.subscribe path).2.Tidy (loose ++ [(store.subscribe path).1]) := by
  refine ⟨h.connected.subscribe path, (renews_subscribe _ _).orderly h.orderly, ?_⟩
  rw [WaitStore.subscribe]
  intro r hr
  split at hr
  next =>
    -- the path is demanded already
    exact (h.covered r hr).imp_right (List.mem_append_left _)
  next =>
    rw [ExtTreeMap.getElem?_insert] at hr
    split at hr
    next heq =>
      -- the new demand is that of the new registration
      obtain ⟨rpath, signal⟩ := r
      obtain rfl : path = rpath := Std.compare_eq_iff_eq.1 heq
      obtain rfl := Option.some.inj hr
      exact Or.inr (List.mem_append_right _ List.mem_cons_self)
    next => exact (h.covered r hr).imp_right (List.mem_append_left _)

/-- Registrations that were made are loose until the waiter gets them. When the backend cannot tell
about a path, they are released. -/
theorem Tidy.register {made : List Registration} (h : store.Tidy made) (backend : Backend σ)
    (paths : List String) :
    (∀ pending, (register backend paths made store).1 = .ok pending →
        (register backend paths made store).2.Tidy pending) ∧
      ∀ e, (register backend paths made store).1 = .error e →
        (register backend paths made store).2.Tidy [] := by
  -- on the paths that are left; what was made for those before is loose
  induction paths generalizing made store with
  | nil =>
    refine ⟨fun pending hok => ?_, fun e herror => ?_⟩
    · obtain rfl := Except.ok.inj hok
      exact h
    · contradiction
  | cons path paths ih =>
    rw [WaitStore.register]
    split
    next => exact ih h
    next =>
      -- what is reported besides does not matter
      apply ih
      exact (h.subscribe path).congr rfl rfl rfl rfl
    next =>
      refine ⟨fun pending hok => ?_, fun e herror => h.release⟩
      contradiction

/-- A waiter that has registered holds what was loose. -/
theorem Tidy.enrol (h : store.Tidy []) {backend : Backend σ} {id : String} {paths : List String}
    {pending : List Registration}
    (hok : (WaitStore.register backend paths [] (store.dismiss id)).1 = .ok pending)
    (token : String) :
    ((WaitStore.register backend paths [] (store.dismiss id)).2.enrol id
      ⟨token, pending⟩).Tidy [] := by
  have hregistered := ((h.dismiss id).register backend paths).1 pending hok
  refine ⟨h.connected.enrol hok token, (renews_enrol _ _ _).orderly hregistered.orderly,
    fun r hr => Or.inl ?_⟩
  rcases hregistered.covered r hr with ⟨holder, held, hheld, hmem⟩ | hmade
  · refine ⟨holder, held, ?_, hmem⟩
    -- the new waiter takes the place of no other: the one that had its id has gone
    obtain ⟨demands, fresh, log, hframe⟩ := register_dismiss_frame backend store id paths
    have hholder : id ≠ holder := by
      rintro rfl
      rw [hframe, ExtTreeMap.getElem?_erase_self] at hheld
      contradiction
    simp only [WaitStore.enrol, ExtTreeMap.getElem?_insert, Std.compare_eq_iff_eq, if_neg hholder]
    exact hheld
  · exact ⟨id, ⟨token, pending⟩, ExtTreeMap.getElem?_insert_self, hmade⟩

/-! ### Steps -/

/-- What a waiter has gone through is not demanded any more. -/
theorem Tidy.goOn (h : store.Tidy []) {id : String} {polled : Waiter}
    (hpolled : store.waiters[id]? = some polled) (writeFirst : Nat → Bool) :
    (store.goOn writeFirst id polled).Tidy [] := by
  refine ⟨h.connected.goOn hpolled writeFirst, (renews_goOn _ _ _ _).orderly h.orderly,
    fun r hr => Or.inl ?_⟩
  unfold Held
  simp only [WaitStore.goOn, ExtTreeMap.getElem?_insert, Std.compare_eq_iff_eq]
  obtain ⟨holder, held, hheld, hmem⟩ := h.held hr
  by_cases hholder : id = holder
  · subst hholder
    obtain rfl := Option.some.inj (hpolled.symm.trans hheld)
    refine ⟨id, _, if_pos rfl, ?_⟩
    obtain ⟨done, hpending, hdone⟩ := exists_fired_of_advance store writeFirst
      (polled.token ∈ store.cancelledTokens) polled.pending
    rw [hpending] at hmem
    rcases List.mem_append.1 hmem with hgone | hleft
    · -- gone through because it was fired, so it was not demanded
      exact absurd (hdone r hgone) (h.orderly.demanded r hr).1
    · exact hleft
  · exact ⟨holder, held, (if_neg hholder).trans hheld, hmem⟩

/-- Every demand is held after a poll: a waiter that is done has given its demands back. -/
theorem Tidy.poll (h : store.Tidy []) (writeFirst : Nat → Bool) (id : String) :
    (store.poll writeFirst id).2.Tidy [] := by
  rcases store.poll_cases writeFirst id with hsame | ⟨polled, hpolled, hstays | hgoes⟩
  · rw [hsame]
    exact h
  · rw [hstays]
    exact h.goOn hpolled writeFirst
  · rw [hgoes]
    exact (h.goOn hpolled writeFirst).dismiss id

/-- Every demand is held after a start: a waiter that is replaced has given its demands back. -/
theorem Tidy.start (h : store.Tidy []) (backend : Backend σ) (writeFirst : Nat → Bool)
    (id token : String) (paths : List String) :
    (store.start backend writeFirst id token paths).2.Tidy [] := by
  cases hregister : (WaitStore.register backend paths [] (store.dismiss id)).1 with
  | error e =>
    rw [start_of_error hregister]
    exact ((h.dismiss id).register backend paths).2 e hregister
  | ok pending =>
    rw [start_of_ok hregister]
    exact (h.enrol hregister token).poll writeFirst id

/-- Every demand is held after a write, which takes the demand for its path away. -/
theorem Tidy.put (h : store.Tidy []) (backend : Backend σ) (path : String) (content : Bytes) :
    (store.put backend path content).2.Tidy [] := by
  refine h.mono (h.connected.put backend path content) (·.put backend path content)
    (waiters_put _ _ _ _) fun r hr => ?_
  rcases put_cases backend store path content with
    ⟨_, -, hput⟩ | ⟨_, _, -, ⟨-, hput⟩ | ⟨_, -, hput⟩⟩
  · rw [hput] at hr
    exact hr
  · rw [hput] at hr
    exact hr
  · rw [hput, ExtTreeMap.getElem?_erase] at hr
    split at hr
    · contradiction
    · exact hr

/-- Whatever the step, no demand is left behind. -/
theorem Tidy.step (h : store.Tidy []) (backend : Backend σ) (writeFirst : Nat → Bool)
    (step : Step) : (store.step backend writeFirst step).2.Tidy [] := by
  cases step with
  -- only starting, polling and dropping change what waiters hold
  | start id token paths => exact h.start backend writeFirst id token paths
  | poll id => exact h.poll writeFirst id
  | drop id => exact h.dismiss id
  | cancel token => exact h.congr rfl rfl rfl rfl
  | put path content => exact h.put backend path content
  | get path => exact h
  | stat path => exact h
  | list path => exact h
  | delete path =>
    obtain ⟨inner, hframe⟩ := delete_frame backend store path
    show (store.delete backend path).2.Tidy []
    rw [hframe]
    exact h.congr rfl rfl rfl rfl
  | pendingPaths =>
    exact h.mono h.connected.pendingPaths store.renews_pendingPaths.orderly rfl fun r hr =>
      ((demands_pendingPaths_iff store r.path r.signal).1 hr).1

/-- Every demand is held after every run. -/
theorem Tidy.after (h : store.Tidy []) (backend : Backend σ) (moves : List Move) :
    (store.after backend moves).Tidy [] := by
  induction moves generalizing store with
  | nil => exact h
  | cons m moves ih => exact ih (h.step backend m.writeFirst m.step)

/-! ### Nothing to drop -/

/-- Asking for the pending paths changes nothing: they are the paths of all demands. -/
theorem Tidy.pendingPaths_eq (h : store.Tidy []) :
    store.pendingPaths = (store.demands.keys, store) := by
  have hkept : store.demands.filter (fun _ signal => store.receivers signal != 0) =
      store.demands := by
    apply ExtTreeMap.ext_getElem?
    intro path
    rw [ExtTreeMap.getElem?_filter']
    cases hdemand : store.demands[path]? with
    | none => rfl
    | some signal =>
      obtain ⟨id, waiter, hwaiter, hr⟩ := h.held (r := ⟨path, signal⟩) hdemand
      have hreceivers : store.receivers signal ≠ 0 :=
        (receivers_ne_zero_iff store signal).2 ⟨id, waiter, hwaiter, _, hr, rfl⟩
      simp [hreceivers]
  rw [pendingPaths, hkept]

/-- Nothing is demanded when nobody waits. -/
theorem Tidy.demands_eq_empty (h : store.Tidy []) (hwaiters : store.waiters = ∅) :
    store.demands = ∅ := by
  apply ExtTreeMap.ext_getElem?
  intro path
  rw [ExtTreeMap.getElem?_empty, Option.eq_none_iff_forall_ne_some]
  intro signal hdemand
  obtain ⟨id, waiter, hwaiter, -⟩ := h.held (r := ⟨path, signal⟩) hdemand
  rw [hwaiters, ExtTreeMap.getElem?_empty] at hwaiter
  contradiction

/-! ### Registrations since they were made -/

/-- A live waiter holds a registration, and the path has not been written since: since the waiter
was started for the last time. -/
inductive Outstanding (backend : Backend σ) (inner : σ) :
    List Move → String → Registration → Prop
  /-- The run up to the start, the start and what has happened since. -/
  | since {before later : List Move} {writeFirst : Nat → Bool} {id token : String}
      {paths : List String} {waiter : Waiter} {r : Registration}
      (hlater : ∀ m ∈ later, ∀ token paths, m.step ≠ .start id token paths)
      (hwaiter : ((init inner).after backend
        (before ++ ⟨writeFirst, .start id token paths⟩ :: later)).waiters[id]? = some waiter)
      (hr : r ∈ waiter.pending)
      (hunwritten : ¬ ((init inner).after backend
        (before ++ [⟨writeFirst, .start id token paths⟩])).Wrote backend later r.path) :
      Outstanding backend inner (before ++ ⟨writeFirst, .start id token paths⟩ :: later) id r

/-- A waiter that has just started holds signals that were not fired and that no other path has. -/
theorem fresh_of_start {backend : Backend σ} {writeFirst : Nat → Bool}
    (hconnected : store.Connected) (horderly : store.Orderly) {id token : String}
    {paths : List String} {waiter : Waiter}
    (h : (store.start backend writeFirst id token paths).2.waiters[id]? = some waiter) :
    ∀ r ∈ waiter.pending,
      (store.start backend writeFirst id token paths).2.Exclusive r ∧
        r.signal ∉ (store.start backend writeFirst id token paths).2.fired := by
  intro r hr
  obtain ⟨made, hok, -, hsuffix⟩ := registered_of_start h
  have hmade : r ∈ made := hsuffix.subset hr
  have henrolled := enrolled_of_register hconnected horderly hok token
  -- the first poll fires nothing
  have hrenews := renews_poll ((register backend paths [] (store.dismiss id)).2.enrol id
    ⟨token, made⟩) writeFirst id
  rw [start_of_ok hok, hrenews.fired_eq]
  exact ⟨hrenews.exclusive (henrolled.exclusive r hmade), henrolled.unfired r hmade⟩

/-- A live waiter was started, for the last time at some move. -/
theorem exists_start {backend : Backend σ} {inner : σ} {moves : List Move} {id : String}
    {waiter : Waiter} (h : ((init inner).after backend moves).waiters[id]? = some waiter) :
    ∃ before later writeFirst token paths,
      moves = before ++ ⟨writeFirst, .start id token paths⟩ :: later ∧
        ∀ m ∈ later, ∀ token paths, m.step ≠ .start id token paths := by
  -- from the last move backwards, to the first that starts the waiter
  induction moves using List.reverseRecOn generalizing waiter with
  | nil => simp [init] at h
  | append_singleton moves m ih =>
    rw [after_append] at h
    obtain ⟨writeFirst, step⟩ := m
    by_cases hstep : ∃ token paths, step = .start id token paths
    · obtain ⟨token, paths, rfl⟩ := hstep
      exact ⟨moves, [], writeFirst, token, paths, rfl, by simp⟩
    · -- the last move does not start it, so it was there before
      have hne : ∀ token paths, step ≠ .start id token paths :=
        fun token paths heq => hstep ⟨token, paths, heq⟩
      obtain ⟨between, hbetween, -⟩ := continues_of_step hne h
      obtain ⟨before, later, first, token, paths, rfl, hlater⟩ := ih hbetween
      refine ⟨before, later ++ [⟨writeFirst, step⟩], first, token, paths, by simp, ?_⟩
      intro m hm
      rcases List.mem_append.1 hm with hm | hm
      · exact hlater m hm
      · rw [List.mem_singleton.1 hm]
        exact hne

/-- A path has been written since a live waiter registered for it just when its signal was fired. -/
theorem outstanding_iff (backend : Backend σ) (inner : σ) (moves : List Move) (id : String)
    (r : Registration) :
    Outstanding backend inner moves id r ↔
      ∃ waiter, ((init inner).after backend moves).waiters[id]? = some waiter ∧
        r ∈ waiter.pending ∧ r.signal ∉ ((init inner).after backend moves).fired := by
  constructor
  · intro h
    cases h with
    | @since before later writeFirst _ token paths waiter _ hlater hwaiter hr hunwritten =>
      refine ⟨waiter, hwaiter, hr, fun hfired => hunwritten ?_⟩
      -- the waiter has held the registration since it was started, when the signal was fresh
      have hidle := (tidy_init inner).after backend before
      rw [after_append, after_cons] at hwaiter hfired
      rw [after_append]
      obtain ⟨started, hstarted, -, hsuffix⟩ := continues_of_after hlater hwaiter
      obtain ⟨hexclusive, hunfired⟩ :=
        fresh_of_start hidle.connected hidle.orderly hstarted r (hsuffix.subset hr)
      exact wrote_of_fired hexclusive hunfired hfired
  · rintro ⟨waiter, hwaiter, hr, hunfired⟩
    obtain ⟨before, later, writeFirst, token, paths, rfl, hlater⟩ := exists_start hwaiter
    refine .since hlater hwaiter hr fun hwrote => hunfired ?_
    have hstarted := (tidy_init inner).after backend
      (before ++ [⟨writeFirst, .start id token paths⟩])
    have hmoves : before ++ ⟨writeFirst, .start id token paths⟩ :: later =
        (before ++ [⟨writeFirst, .start id token paths⟩]) ++ later := by simp
    rw [hmoves, after_append] at hwaiter ⊢
    exact fired_of_wrote hstarted.connected hlater hwaiter hr hwrote

/-! ### Pending paths -/

/-- What is still to be written for a waiter is demanded. -/
theorem Outstanding.demanded {backend : Backend σ} {inner : σ} {moves : List Move} {id : String}
    {r : Registration} (h : Outstanding backend inner moves id r) :
    ((init inner).after backend moves).demands[r.path]? = some r.signal := by
  obtain ⟨waiter, hwaiter, hr, hunfired⟩ := (outstanding_iff _ _ _ _ _).1 h
  have hconnected := connected_after (connected_init inner) backend moves
  exact (hconnected id waiter hwaiter r hr).resolve_left hunfired

/-- The pending paths are those of all demands. -/
theorem Tidy.mem_pendingPaths_iff (h : store.Tidy []) (path : String) :
    path ∈ store.pendingPaths.1 ↔ ∃ signal, store.demands[path]? = some signal := by
  rw [h.pendingPaths_eq, ExtTreeMap.mem_keys, ExtTreeMap.mem_iff_isSome_getElem?,
    Option.isSome_iff_exists]

/-- The pending paths are those still to be written for some waiter. -/
theorem mem_pendingPaths_after_iff (backend : Backend σ) (inner : σ) (moves : List Move)
    (path : String) :
    path ∈ ((init inner).after backend moves).pendingPaths.1 ↔
      ∃ id r, Outstanding backend inner moves id r ∧ r.path = path := by
  have htidy := (tidy_init inner).after backend moves
  rw [htidy.mem_pendingPaths_iff]
  constructor
  · rintro ⟨signal, hdemand⟩
    -- somebody holds the demand, and its signal has not been fired
    obtain ⟨id, waiter, hwaiter, hr⟩ := htidy.held (r := ⟨path, signal⟩) hdemand
    refine ⟨id, ⟨path, signal⟩, (outstanding_iff _ _ _ _ _).2 ⟨waiter, hwaiter, hr, ?_⟩, rfl⟩
    exact (htidy.orderly.demanded _ hdemand).1
  · rintro ⟨id, r, h, rfl⟩
    exact ⟨r.signal, h.demanded⟩

/-- The pending paths are, in ascending order, those that some live waiter has registered for and
that have not been written since. Each has one signal, which all waiters on it share. They are the
paths of all demands, also before anybody asks, so nothing is demanded when nobody waits. -/
theorem pendingPaths_exact (backend : Backend σ) (inner : σ) (moves : List Move) :
    let store := (init inner).after backend moves
    store.pendingPaths.1.Pairwise (· < ·) ∧
      (∀ path, path ∈ store.pendingPaths.1 ↔
        ∃ id r, Outstanding backend inner moves id r ∧ r.path = path) ∧
      (∀ path ∈ store.pendingPaths.1, ∃ signal, store.demands[path]? = some signal ∧
        ∀ id r, Outstanding backend inner moves id r → (r.signal = signal ↔ r.path = path)) ∧
      store.pendingPaths = (store.demands.keys, store) ∧
      (store.waiters = ∅ → store.demands = ∅) := by
  intro store
  have htidy : store.Tidy [] := (tidy_init inner).after backend moves
  refine ⟨store.pairwise_pendingPaths.imp compareOfLessAndEq_eq_lt.1,
    mem_pendingPaths_after_iff backend inner moves, fun path hpath => ?_, htidy.pendingPaths_eq,
    htidy.demands_eq_empty⟩
  -- a demand has one signal, and a signal stands for one path
  obtain ⟨signal, hdemand⟩ := (htidy.mem_pendingPaths_iff path).1 hpath
  refine ⟨signal, hdemand, fun id r h => ⟨?_, ?_⟩⟩
  · rintro rfl
    exact htidy.orderly.path_eq (Or.inr h.demanded) hdemand
  · rintro rfl
    exact Option.some.inj (h.demanded.symm.trans hdemand)

section AllWaysOut

/-- Waits that end in every way: one asks for a path twice, a path is written, removed and waited
for again, one wait fails after it has registered for a path, one is cancelled and one dropped. -/
def allWaysOut : List Move :=
  [.start "first" "one" ["/a", "/b", "/a"], .start "second" "two" ["/a"], .put "/a" [],
    .delete "/a", .start "third" "three" ["/a"], .start "fourth" "four" ["/c", "no path"],
    .cancel "two", .poll "second", .start "fifth" "five" ["/d"], .drop "fifth"].map
    (⟨cancelFirst, ·⟩)

/-- The two that are left go. -/
def leaving : List Move :=
  [.drop "first", .drop "third"].map (⟨cancelFirst, ·⟩)

/-- Two paths are pending in the end, one of them for the second time, and none when all have gone.
-/
theorem pendingPaths_exact_allWaysOut :
    let store := (init Files.empty).after Files.backend allWaysOut
    store.pendingPaths = (["/a", "/b"], store) ∧
      (∃ id r, Outstanding Files.backend Files.empty allWaysOut id r ∧ r.path = "/a") ∧
      ((init Files.empty).after Files.backend (allWaysOut ++ leaving)).demands = ∅ := by
  intro store
  have hkeys : store.demands.keys = ["/a", "/b"] := by decide +kernel
  have hgone : ((init Files.empty).after Files.backend (allWaysOut ++ leaving)).waiters = ∅ := by
    decide +kernel
  obtain ⟨-, hmem, -, heq, -⟩ := pendingPaths_exact Files.backend Files.empty allWaysOut
  obtain ⟨-, -, -, -, hempty⟩ :=
    pendingPaths_exact Files.backend Files.empty (allWaysOut ++ leaving)
  have heq : store.pendingPaths = (["/a", "/b"], store) := hkeys ▸ heq
  refine ⟨heq, (hmem "/a").1 ?_, hempty hgone⟩
  show "/a" ∈ store.pendingPaths.1
  rw [heq]
  exact List.mem_cons_self

end AllWaysOut

end RegistryBench.Storage.WaitStore
