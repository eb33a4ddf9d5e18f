import RegistryBench.Proofs.Storage.Registrations
import RegistryBench.Proofs.Storage.Runs

/-!
# What fires a signal

A signal that is demanded has not been fired, and it is demanded for one path only. So when the
signal of a registration is fired after all, its path has been written since.

* `Orderly` says how signals are kept apart; all reachable stores are orderly (`orderly_after`).
* `renews_of_step`: a step that writes nothing fires no signal and hands none to another path.
* `wrote_of_fired` finds the write that fired a signal.
-/

namespace RegistryBench.Storage.WaitStore

open Std (ExtTreeMap ExtTreeSet)

variable {σ : Type}

/-! ### Signals kept apart -/

/-- The signal of a registration is in use, and demanded for the path of the registration at
most. -/
def Exclusive (store : WaitStore σ) (r : Registration) : Prop :=
  r.signal < store.fresh ∧ ∀ path, store.demands[path]? = some r.signal → path = r.path

/-- A signal that is demanded was not fired and is demanded for one path. -/
structure Orderly (store : WaitStore σ) : Prop where
  /-- Signals that were fired are not new. -/
  fired_lt : ∀ signal ∈ store.fired, signal < store.fresh
  /-- A demanded signal was not fired and has no other path. -/
  demanded : ∀ r : Registration, store.demands[r.path]? = some r.signal →
    r.signal ∉ store.fired ∧ store.Exclusive r

/-- The path of a registration is the one that its signal is demanded for. -/
theorem Orderly.path_eq {store : WaitStore σ} (h : store.Orderly) {r : Registration}
    (hlinked : store.Linked r) {path : String} (hdemand : store.demands[path]? = some r.signal) :
    r.path = path := by
  -- what is demanded was not fired, so the link of the registration is a demand too
  obtain ⟨hunfired, -, hexclusive⟩ := h.demanded ⟨path, r.signal⟩ hdemand
  exact hexclusive r.path (hlinked.resolve_left hunfired)

/-- No signal is demanded at the start, so none is demanded for two paths. -/
theorem orderly_init (inner : σ) : (init inner).Orderly where
  fired_lt signal h := by simp [init] at h
  demanded r h := by simp [init] at h

/-- Nothing is fired, and signals that are kept apart stay so. -/
structure Renews (store store' : WaitStore σ) : Prop where
  /-- The signals fired are the same. -/
  fired_eq : store'.fired = store.fired
  /-- No signal in use is handed to another path. -/
  exclusive : ∀ {r : Registration}, store.Exclusive r → store'.Exclusive r
  /-- Order is kept. -/
  orderly : store.Orderly → store'.Orderly

theorem Renews.refl (store : WaitStore σ) : store.Renews store :=
  ⟨rfl, id, id⟩

/-- Two moves that fire nothing and keep signals apart do so together. -/
theorem Renews.trans {store store' store'' : WaitStore σ} (h : store.Renews store')
    (h' : store'.Renews store'') : store.Renews store'' :=
  ⟨h'.fired_eq.trans h.fired_eq, h'.exclusive ∘ h.exclusive, h'.orderly ∘ h.orderly⟩

/-- Dropping demands hands no signal to another path. -/
theorem renews_of_demands {store store' : WaitStore σ} (hfired : store'.fired = store.fired)
    (hfresh : store'.fresh = store.fresh)
    (hdemands : ∀ (path : String) (signal : Nat), store'.demands[path]? = some signal →
      store.demands[path]? = some signal) : store.Renews store' := by
  have hexclusive {r : Registration} (h : store.Exclusive r) : store'.Exclusive r :=
    ⟨hfresh ▸ h.1, fun path hpath => h.2 path (hdemands path r.signal hpath)⟩
  refine ⟨hfired, hexclusive, fun h => ⟨?_, fun r hr => ?_⟩⟩
  · rw [hfired, hfresh]
    exact h.fired_lt
  · obtain ⟨hunfired, hr⟩ := h.demanded r (hdemands r.path r.signal hr)
    rw [hfired]
    exact ⟨hunfired, hexclusive hr⟩

/-- Giving demands back fires nothing. -/
theorem renews_release (store : WaitStore σ) (paths : List String) :
    store.Renews (store.release paths) := by
  have hdemands (path : String) (signal : Nat)
      (h : (store.release paths).demands[path]? = some signal) :
      store.demands[path]? = some signal := ((demands_release_iff store paths path signal).1 h).1
  obtain ⟨demands, hframe⟩ := store.release_frame paths
  rw [hframe] at hdemands ⊢
  exact renews_of_demands rfl rfl hdemands

theorem renews_dismiss (store : WaitStore σ) (id : String) : store.Renews (store.dismiss id) := by
  rw [dismiss]
  split
  next waiter hwaiter =>
    have herased : store.Renews { store with waiters := store.waiters.erase id } :=
      renews_of_demands rfl rfl fun _ _ h => h
    exact herased.trans (renews_release _ _)
  next => exact .refl store

/-- A new demand has a new signal. -/
theorem renews_subscribe (store : WaitStore σ) (path : String) :
    store.Renews (store.subscribe path).2 := by
  rw [subscribe]
  split
  next => exact .refl store
  next hnone =>
    -- the demands are those before, and one with the next number
    have hdemand (other : String) (signal : Nat) :
        (store.demands.insert path store.fresh)[other]? = some signal →
          path = other ∧ store.fresh = signal ∨ store.demands[other]? = some signal := by
      rw [ExtTreeMap.getElem?_insert]
      split
      next heq => exact fun h => Or.inl ⟨Std.compare_eq_iff_eq.1 heq, Option.some.inj h⟩
      next => exact Or.inr
    have hexclusive {r : Registration} (h : store.Exclusive r) :
        ({ store with
          demands := store.demands.insert path store.fresh
          fresh := store.fresh + 1 } : WaitStore σ).Exclusive r := by
      refine ⟨Nat.lt_succ_of_lt h.1, fun other hother => ?_⟩
      obtain ⟨-, heq⟩ | hold := hdemand other r.signal hother
      · exact absurd heq (Nat.ne_of_gt h.1)
      · exact h.2 other hold
    refine ⟨rfl, hexclusive, fun h => ⟨fun signal hsignal => ?_, fun r hr => ?_⟩⟩
    · exact Nat.lt_succ_of_lt (h.fired_lt signal hsignal)
    · obtain ⟨hpath, hsignal⟩ | hold := hdemand r.path r.signal hr
      · -- the new signal: neither fired nor demanded before
        refine ⟨fun hfired => ?_, ?_, fun other hother => ?_⟩
        · exact Nat.ne_of_gt (h.fired_lt r.signal hfired) hsignal
        · rw [← hsignal]
          exact Nat.lt_succ_self _
        · obtain ⟨hother, -⟩ | hold := hdemand other r.signal hother
          · exact hother.symm.trans hpath
          · exact absurd hsignal (Nat.ne_of_gt (h.demanded ⟨other, r.signal⟩ hold).2.1)
      · obtain ⟨hunfired, hr⟩ := h.demanded r hold
        exact ⟨hunfired, hexclusive hr⟩

/-- Neither the report nor the waiters matter to signals. -/
theorem renews_of_same {store store' : WaitStore σ} (hfired : store'.fired = store.fired)
    (hfresh : store'.fresh = store.fresh) (hdemands : store'.demands = store.demands) :
    store.Renews store' :=
  renews_of_demands hfired hfresh fun _ _ h => hdemands ▸ h

/-- Registering fires nothing and hands every new signal to one path. -/
theorem renews_register (backend : Backend σ) (paths : List String) (made : List Registration)
    (store : WaitStore σ) : store.Renews (register backend paths made store).2 := by
  induction paths generalizing made store with
  | nil => exact .refl store
  | cons path paths ih =>
    rw [register]
    split
    · exact ih made store
    · have hsubscribed : store.Renews ((store.subscribe path).2.report
          (.debug reporter "waiting for write" [("path", Text.quote path)])) :=
        (store.renews_subscribe path).trans (renews_of_same rfl rfl rfl)
      exact hsubscribed.trans (ih (made ++ [(store.subscribe path).1]) _)
    · exact store.renews_release _

theorem renews_goOn (store : WaitStore σ) (writeFirst : Nat → Bool) (id : String)
    (polled : Waiter) : store.Renews (store.goOn writeFirst id polled) :=
  renews_of_same rfl rfl rfl

/-- Polling fires nothing and hands no signal out. -/
theorem renews_poll (store : WaitStore σ) (writeFirst : Nat → Bool) (id : String) :
    store.Renews (store.poll writeFirst id).2 := by
  obtain hsame | ⟨polled, -, hstays | hgoes⟩ := store.poll_cases writeFirst id
  · rw [hsame]
    exact .refl store
  · rw [hstays]
    exact store.renews_goOn writeFirst id polled
  · rw [hgoes]
    exact (store.renews_goOn writeFirst id polled).trans (renews_dismiss _ _)

theorem renews_enrol (store : WaitStore σ) (id : String) (waiter : Waiter) :
    store.Renews (store.enrol id waiter) :=
  renews_of_same rfl rfl rfl

/-- A start fires nothing and hands every new signal to one path. -/
theorem renews_start (backend : Backend σ) (writeFirst : Nat → Bool) (store : WaitStore σ)
    (id token : String) (paths : List String) :
    store.Renews (store.start backend writeFirst id token paths).2 := by
  have hregister : store.Renews (register backend paths [] (store.dismiss id)).2 :=
    (store.renews_dismiss id).trans (renews_register backend paths [] _)
  obtain herror | ⟨pending, -, hpoll⟩ := start_cases backend writeFirst store id token paths
  · rw [herror]
    exact hregister
  · rw [hpoll]
    exact hregister.trans ((renews_enrol _ _ _).trans (renews_poll _ _ _))

theorem renews_pendingPaths (store : WaitStore σ) : store.Renews store.pendingPaths.2 :=
  renews_of_demands rfl rfl fun path signal h =>
    ((demands_pendingPaths_iff store path signal).1 h).1

/-- A step that writes nothing fires no signal. -/
theorem renews_of_step {step : Step} (hstep : ∀ path content, step ≠ .put path content)
    (backend : Backend σ) (writeFirst : Nat → Bool) (store : WaitStore σ) :
    store.Renews (store.step backend writeFirst step).2 := by
  cases step with
  | start id token paths => exact renews_start backend writeFirst store id token paths
  | poll id => exact store.renews_poll writeFirst id
  | drop id => exact store.renews_dismiss id
  | cancel token => exact renews_of_same rfl rfl rfl
  | put path content => exact absurd rfl (hstep path content)
  | get path => exact .refl store
  | stat path => exact .refl store
  | list path => exact .refl store
  | delete path =>
    obtain ⟨inner, hframe⟩ := delete_frame backend store path
    show store.Renews (store.delete backend path).2
    rw [hframe]
    exact renews_of_same rfl rfl rfl
  | pendingPaths => exact store.renews_pendingPaths

/-! ### Writing -/

/-- A signal that is fired after a write was so before, or is the one demanded for the path. -/
theorem fired_of_fired_put {backend : Backend σ} {store : WaitStore σ} {path : String}
    {content : Bytes} {signal : Nat} (h : signal ∈ (store.put backend path content).2.fired) :
    signal ∈ store.fired ∨ store.demands[path]? = some signal ∧
      (store.put backend path content).1 = .ok () := by
  obtain ⟨_, -, hput⟩ | ⟨_, _, -, ⟨-, hput⟩ | ⟨fired, hfired, hput⟩⟩ :=
    put_cases backend store path content
  · rw [hput] at h
    exact Or.inl h
  · rw [hput] at h
    exact Or.inl h
  · rw [hput] at h ⊢
    refine (ExtTreeSet.mem_insert.1 h).symm.imp_right fun heq => ?_
    rw [← Std.compare_eq_iff_eq.1 heq]
    exact ⟨hfired, rfl⟩

/-- A write hands no signal to another path. -/
theorem Exclusive.put {store : WaitStore σ} {r : Registration} (h : store.Exclusive r)
    (backend : Backend σ) (path : String) (content : Bytes) :
    (store.put backend path content).2.Exclusive r := by
  obtain ⟨_, -, hput⟩ | ⟨_, _, -, ⟨-, hput⟩ | ⟨_, -, hput⟩⟩ :=
    put_cases backend store path content
  · rw [hput]
    exact h
  · rw [hput]
    exact h
  · rw [hput]
    refine ⟨h.1, fun other hother => h.2 other ?_⟩
    rw [ExtTreeMap.getElem?_erase] at hother
    split at hother
    · contradiction
    · exact hother

/-- A write fires the signal of its path, which is demanded no more. -/
theorem Orderly.put {store : WaitStore σ} (h : store.Orderly) (backend : Backend σ)
    (path : String) (content : Bytes) : (store.put backend path content).2.Orderly := by
  have hexclusive {r : Registration} (hr : store.Exclusive r) :
      (store.put backend path content).2.Exclusive r := hr.put backend path content
  obtain ⟨_, -, hput⟩ | ⟨_, _, -, ⟨-, hput⟩ | ⟨signal, hsignal, hput⟩⟩ :=
    put_cases backend store path content
  · rw [hput]
    exact h
  · rw [hput]
    exact ⟨h.fired_lt, h.demanded⟩
  · rw [hput] at hexclusive ⊢
    refine ⟨fun fired hfired => ?_, fun r hr => ?_⟩
    · obtain heq | hfired := ExtTreeSet.mem_insert.1 hfired
      · rw [← Std.compare_eq_iff_eq.1 heq]
        exact (h.demanded ⟨path, signal⟩ hsignal).2.1
      · exact h.fired_lt fired hfired
    · -- another demand than the one that is fired, hence of another signal
      rw [ExtTreeMap.getElem?_erase] at hr
      split at hr
      next => contradiction
      next hne =>
        obtain ⟨hunfired, hr⟩ := h.demanded r hr
        refine ⟨fun hfired => ?_, hexclusive hr⟩
        obtain heq | hfired := ExtTreeSet.mem_insert.1 hfired
        · rw [Std.compare_eq_iff_eq] at heq hne
          exact hne (hr.2 path (heq ▸ hsignal))
        · exact hunfired hfired

/-! ### Runs -/

/-- Once a signal belongs to one path, no step gives it to another one. -/
theorem Exclusive.step {store : WaitStore σ} {r : Registration} (h : store.Exclusive r)
    (backend : Backend σ) (writeFirst : Nat → Bool) (step : Step) :
    (store.step backend writeFirst step).2.Exclusive r := by
  by_cases hwrite : ∃ path content, step = .put path content
  · obtain ⟨path, content, rfl⟩ := hwrite
    exact h.put backend path content
  · exact (renews_of_step (fun path content heq => hwrite ⟨path, content, heq⟩) _ _ _).exclusive h

/-- Every step keeps the signals of different paths apart. -/
theorem Orderly.step {store : WaitStore σ} (h : store.Orderly) (backend : Backend σ)
    (writeFirst : Nat → Bool) (step : Step) :
    (store.step backend writeFirst step).2.Orderly := by
  by_cases hwrite : ∃ path content, step = .put path content
  · obtain ⟨path, content, rfl⟩ := hwrite
    exact h.put backend path content
  · exact (renews_of_step (fun path content heq => hwrite ⟨path, content, heq⟩) _ _ _).orderly h

/-- A signal that is demanded is demanded for one path, after every run. -/
theorem orderly_after {store : WaitStore σ} (h : store.Orderly) (backend : Backend σ)
    (moves : List Move) : (store.after backend moves).Orderly := by
  induction moves generalizing store with
  | nil => exact h
  | cons m moves ih => exact ih (h.step backend m.writeFirst m.step)

/-- A signal that one path has is fired by a write of that path. -/
theorem wrote_of_fired {backend : Backend σ} {store : WaitStore σ} {r : Registration}
    (hr : store.Exclusive r) (hunfired : r.signal ∉ store.fired) {moves : List Move}
    (hfired : r.signal ∈ (store.after backend moves).fired) :
    store.Wrote backend moves r.path := by
  induction moves generalizing store with
  | nil => exact absurd hfired hunfired
  | cons m moves ih =>
    rw [wrote_cons_iff]
    by_cases hnow : r.signal ∈ (store.move backend m).2.fired
    · -- fired by this move, which is a write of the path that demands the signal
      left
      obtain ⟨writeFirst, step⟩ := m
      by_cases hwrite : ∃ path content, step = .put path content
      · obtain ⟨path, content, rfl⟩ := hwrite
        obtain hbefore | ⟨hdemand, hdone⟩ := fired_of_fired_put hnow
        · exact absurd hbefore hunfired
        · obtain rfl := hr.2 path hdemand
          exact ⟨content, rfl, congrArg Answer.changed hdone⟩
      · have hsame := (renews_of_step (fun path content heq => hwrite ⟨path, content, heq⟩)
          backend writeFirst store).fired_eq
        exact absurd (hsame ▸ hnow) hunfired
    · exact Or.inr (ih (hr.step backend m.writeFirst m.step) hnow hfired)

end RegistryBench.Storage.WaitStore
