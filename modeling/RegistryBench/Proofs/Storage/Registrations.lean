import RegistryBench.Storage.Waiting

/-!
# Registrations of waiters

A waiter holds registrations, and the demands hold the signals that writes fire. A registration is
linked when its signal was fired or is the one that the next write of its path fires. Whatever
happens, all registrations of waiters stay linked (`Connected.step`): a demand is dropped only when
no waiter holds its signal.

* `receivers_eq_zero_iff` says which signals nobody holds.
* `demands_release_iff` and `demands_pendingPaths_iff` say which demands are dropped.
* `waiter_of_start` says what a waiter registers for.
* `continues_of_step` and `fired_of_put` say what a step does to a waiter that is there already.
-/

namespace RegistryBench.Storage.WaitStore

open Std (ExtTreeMap ExtTreeSet)

variable {σ : Type}

/-! ### Demands that are dropped -/

/-- Counts of registrations for a signal add up to zero when there is none. -/
private theorem foldr_countP_eq_zero_iff (entries : List (String × Waiter)) (signal : Nat) :
    entries.foldr (fun entry count =>
        entry.2.pending.countP (fun r => r.signal == signal) + count) 0 = 0 ↔
      ∀ entry ∈ entries, ∀ r ∈ entry.2.pending, r.signal ≠ signal := by
  induction entries with
  | nil => simp
  | cons entry entries ih =>
    rw [List.foldr_cons, Nat.add_eq_zero_iff, ih, List.countP_eq_zero, List.forall_mem_cons]
    simp only [beq_iff_eq, ne_eq]

/-- No registration is held for a signal when no waiter has one. -/
theorem receivers_eq_zero_iff (store : WaitStore σ) (signal : Nat) :
    store.receivers signal = 0 ↔
      ∀ (id : String) (waiter : Waiter), store.waiters[id]? = some waiter →
        ∀ r ∈ waiter.pending, r.signal ≠ signal := by
  refine (foldr_countP_eq_zero_iff store.waiters.toList signal).trans
    ⟨fun h id waiter hwaiter => ?_, ?_⟩
  · exact h (id, waiter) (ExtTreeMap.mem_toList_iff_getElem?_eq_some.2 hwaiter)
  · rintro h ⟨id, waiter⟩ hentry
    exact h id waiter (ExtTreeMap.mem_toList_iff_getElem?_eq_some.1 hentry)

/-- Dropping a demand changes nothing else. -/
theorem releasePath_frame (store : WaitStore σ) (path : String) :
    ∃ demands, store.releasePath path = { store with demands } := by
  rw [releasePath]
  split
  · split
    · exact ⟨_, rfl⟩
    · exact ⟨_, rfl⟩
  · exact ⟨_, rfl⟩

/-- The demand of the path is dropped when nobody holds its signal. -/
theorem demands_releasePath_iff (store : WaitStore σ) (path other : String) (signal : Nat) :
    (store.releasePath path).demands[other]? = some signal ↔
      store.demands[other]? = some signal ∧ ¬ (other = path ∧ store.receivers signal = 0) := by
  rw [releasePath]
  split
  next held hheld =>
    split
    next hzero =>
      -- the demand is dropped: it is the one with the signal that nobody holds
      rw [ExtTreeMap.getElem?_erase]
      split
      next heq =>
        obtain rfl : path = other := Std.compare_eq_iff_eq.1 heq
        simp only [hheld, Option.some.injEq, true_and, reduceCtorEq, false_iff, not_and,
          Classical.not_not]
        rintro rfl
        exact hzero
      next hne =>
        have hother : other ≠ path := fun h => hne (Std.compare_eq_iff_eq.2 h.symm)
        simp only [hother, false_and, not_false_eq_true, and_true]
    next hpos =>
      -- somebody holds the signal of the path, so a signal that nobody holds is another one
      refine ⟨fun h => ⟨h, ?_⟩, And.left⟩
      rintro ⟨rfl, hzero⟩
      obtain rfl := Option.some.inj (hheld.symm.trans h)
      exact hpos hzero
  next hnone =>
    refine ⟨fun h => ⟨h, ?_⟩, And.left⟩
    rintro ⟨rfl, -⟩
    exact Option.some_ne_none _ (h.symm.trans hnone)

/-- Dropping demands changes nothing else. -/
theorem release_frame (store : WaitStore σ) (paths : List String) :
    ∃ demands, store.release paths = { store with demands } := by
  induction paths generalizing store with
  | nil => exact ⟨_, rfl⟩
  | cons path paths ih =>
    obtain ⟨demands, hpath⟩ := store.releasePath_frame path
    obtain ⟨demands', hpaths⟩ := ih (store.releasePath path)
    refine ⟨demands', ?_⟩
    rw [release, List.foldl_cons, ← release, hpaths, hpath]

/-- The demands of the paths are dropped when nobody holds their signals. -/
theorem demands_release_iff (store : WaitStore σ) (paths : List String) (path : String)
    (signal : Nat) :
    (store.release paths).demands[path]? = some signal ↔
      store.demands[path]? = some signal ∧ ¬ (path ∈ paths ∧ store.receivers signal = 0) := by
  induction paths generalizing store with
  | nil => simp [release]
  | cons first paths ih =>
    -- who holds a signal does not depend on the demands
    have hreceivers : (store.releasePath first).receivers signal = store.receivers signal := by
      obtain ⟨demands, hpath⟩ := store.releasePath_frame first
      rw [hpath]
      rfl
    rw [release, List.foldl_cons, ← release, ih, demands_releasePath_iff, hreceivers,
      List.mem_cons, and_assoc, or_and_right, not_or]

/-- Asking for the pending paths drops the demands that nobody holds the signal of. -/
theorem demands_pendingPaths_iff (store : WaitStore σ) (path : String) (signal : Nat) :
    store.pendingPaths.2.demands[path]? = some signal ↔
      store.demands[path]? = some signal ∧ store.receivers signal ≠ 0 := by
  simp only [pendingPaths, ExtTreeMap.getElem?_filter', Option.filter_eq_some_iff, bne_iff_ne]

/-- When a waiter goes, only demands change besides. -/
theorem dismiss_frame (store : WaitStore σ) (id : String) :
    ∃ demands, store.dismiss id =
      { store with demands, waiters := store.waiters.erase id } := by
  rw [dismiss]
  split
  next waiter hwaiter =>
    obtain ⟨demands, hrelease⟩ := release_frame
      { store with waiters := store.waiters.erase id } (waiter.pending.map Registration.path)
    exact ⟨demands, hrelease⟩
  next hnone =>
    -- there is no such waiter, and taking it away changes nothing
    have herase : store.waiters.erase id = store.waiters := by
      refine ExtTreeMap.ext_getElem? fun other => ?_
      rw [ExtTreeMap.getElem?_erase]
      split
      next heq => rw [← Std.compare_eq_iff_eq.1 heq, hnone]
      next => rfl
    rw [herase]
    exact ⟨_, rfl⟩

/-! ### Linked registrations -/

/-- The signal of a registration was fired, or the next write of its path fires it. -/
def Linked (store : WaitStore σ) (r : Registration) : Prop :=
  r.signal ∈ store.fired ∨ store.demands[r.path]? = some r.signal

/-- Every registration that a waiter holds is linked. -/
def Connected (store : WaitStore σ) : Prop :=
  ∀ (id : String) (waiter : Waiter), store.waiters[id]? = some waiter →
    ∀ r ∈ waiter.pending, store.Linked r

theorem connected_init (inner : σ) : (init inner).Connected := by
  intro id waiter hwaiter
  simp [init] at hwaiter

/-- A demand whose signal somebody holds is kept. -/
theorem Connected.release {store : WaitStore σ} (h : store.Connected) (paths : List String) :
    (store.release paths).Connected := by
  obtain ⟨demands, hframe⟩ := store.release_frame paths
  intro id waiter hwaiter r hr
  rw [hframe] at hwaiter
  refine (h id waiter hwaiter r hr).imp (fun hfired => ?_) fun hdemand => ?_
  · rw [hframe]
    exact hfired
  · -- the waiter holds the signal, so its demand is not among those dropped
    refine (demands_release_iff store paths r.path r.signal).2 ⟨hdemand, ?_⟩
    rintro ⟨-, hzero⟩
    exact (receivers_eq_zero_iff store r.signal).1 hzero id waiter hwaiter r hr rfl

/-- A store with fewer registrations is connected when those that were linked still are. -/
theorem Connected.mono {store store' : WaitStore σ} (h : store.Connected)
    (hwaiters : ∀ (id : String) (waiter : Waiter), store'.waiters[id]? = some waiter →
      ∃ before, store.waiters[id]? = some before ∧ waiter.pending ⊆ before.pending)
    (hlinked : ∀ r, store.Linked r → store'.Linked r) : store'.Connected := by
  intro id waiter hwaiter r hr
  obtain ⟨before, hbefore, hsubset⟩ := hwaiters id waiter hwaiter
  exact hlinked r (h id before hbefore r (hsubset hr))

/-- The waiters besides one that goes stay. -/
theorem getElem?_waiters_dismiss (store : WaitStore σ) (id other : String) :
    (store.dismiss id).waiters[other]? =
      if id = other then none else store.waiters[other]? := by
  obtain ⟨demands, hframe⟩ := store.dismiss_frame id
  rw [hframe]
  simp only [ExtTreeMap.getElem?_erase, Std.compare_eq_iff_eq]

/-- Registrations of a waiter that is taken away need not be linked. -/
theorem Connected.erase {store : WaitStore σ} (h : store.Connected) (id : String) :
    ({ store with waiters := store.waiters.erase id } : WaitStore σ).Connected := by
  refine h.mono (fun other stays hstays => ?_) fun _ hr => hr
  simp only [ExtTreeMap.getElem?_erase] at hstays
  split at hstays
  next => contradiction
  next => exact ⟨stays, hstays, List.Subset.refl _⟩

/-- A waiter that goes takes no demand away that another one needs. -/
theorem Connected.dismiss {store : WaitStore σ} (h : store.Connected) (id : String) :
    (store.dismiss id).Connected := by
  rw [WaitStore.dismiss]
  split
  -- the registrations go first: only then can demands be found unheld
  next waiter hwaiter => exact (h.erase id).release _
  next => exact h

/-! ### Registering -/

/-- Subscribing changes the demands and the number of the next signal at most. -/
theorem subscribe_frame (store : WaitStore σ) (path : String) :
    ∃ demands fresh, (store.subscribe path).2 = { store with demands, fresh } := by
  rw [subscribe]
  split
  · exact ⟨_, _, rfl⟩
  · exact ⟨_, _, rfl⟩

/-- The demand that a subscription asks for is there, under the path of the registration. -/
theorem demands_subscribe (store : WaitStore σ) (path : String) :
    (store.subscribe path).1.path = path ∧
      (store.subscribe path).2.demands[path]? = some (store.subscribe path).1.signal := by
  rw [subscribe]
  split
  next signal hsignal => exact ⟨rfl, hsignal⟩
  next => exact ⟨rfl, ExtTreeMap.getElem?_insert_self⟩

/-- Subscribing changes no demand that is there. -/
theorem demands_subscribe_of_some {store : WaitStore σ} {other : String} {signal : Nat}
    (h : store.demands[other]? = some signal) (path : String) :
    (store.subscribe path).2.demands[other]? = some signal := by
  rw [subscribe]
  split
  next => exact h
  next hnone =>
    -- a new demand is for a path without one
    have hother : path ≠ other := by
      rintro rfl
      exact Option.some_ne_none _ (h.symm.trans hnone)
    simp only [ExtTreeMap.getElem?_insert, Std.compare_eq_iff_eq, if_neg hother]
    exact h

/-- Subscribing keeps linked registrations linked. -/
theorem Linked.subscribe {store : WaitStore σ} {r : Registration} (h : store.Linked r)
    (path : String) : (store.subscribe path).2.Linked r := by
  obtain ⟨demands, fresh, hframe⟩ := store.subscribe_frame path
  refine h.imp (fun hfired => ?_) fun hdemand => demands_subscribe_of_some hdemand path
  rw [hframe]
  exact hfired

/-- A new registration is linked to the demand that it finds or makes, and older ones still are. -/
theorem linked_append_subscribe {store : WaitStore σ} {made : List Registration}
    (hmade : ∀ r ∈ made, store.Linked r) (path : String) :
    ∀ r ∈ made ++ [(store.subscribe path).1], (store.subscribe path).2.Linked r := by
  intro r hr
  obtain hr | hr := List.mem_append.1 hr
  · exact (hmade r hr).subscribe path
  · obtain rfl := List.mem_singleton.1 hr
    obtain ⟨hpath, hdemand⟩ := store.demands_subscribe path
    exact Or.inr (hpath.symm ▸ hdemand)

/-- Subscribing to a path leaves the registrations of all waiters linked. -/
theorem Connected.subscribe {store : WaitStore σ} (h : store.Connected) (path : String) :
    (store.subscribe path).2.Connected := by
  obtain ⟨demands, fresh, hframe⟩ := store.subscribe_frame path
  refine h.mono (fun id waiter hwaiter => ?_) fun r hr => hr.subscribe path
  rw [hframe] at hwaiter
  exact ⟨waiter, hwaiter, List.Subset.refl _⟩

/-- Registering changes the demands, the number of the next signal and what is reported at most.
-/
theorem register_frame (backend : Backend σ) (paths : List String) (made : List Registration)
    (store : WaitStore σ) :
    ∃ demands fresh log, (register backend paths made store).2 =
      { store with demands, fresh, log } := by
  induction paths generalizing made store with
  | nil => exact ⟨_, _, _, rfl⟩
  | cons path paths ih =>
    rw [register]
    split
    · exact ih made store
    · obtain ⟨demands, fresh, hsubscribe⟩ := store.subscribe_frame path
      obtain ⟨demands', fresh', log', hregister⟩ := ih
        (made ++ [(store.subscribe path).1])
        ((store.subscribe path).2.report
          (.debug reporter "waiting for write" [("path", Text.quote path)]))
      refine ⟨demands', fresh', log', ?_⟩
      rw [hregister, hsubscribe]
      rfl
    · -- the backend cannot tell, and what was registered before is released again
      obtain ⟨demands, hrelease⟩ := store.release_frame (made.map Registration.path)
      exact ⟨demands, _, _, hrelease⟩

/-- A path is missing when the backend says that nothing is there. -/
def Missing (backend : Backend σ) (store : WaitStore σ) (path : String) : Prop :=
  ∃ named, backend.stat store.inner path = .error (.pathNotFound named)

/-- Registering keeps registrations linked, be they of other waiters or made before. -/
theorem Connected.register {store : WaitStore σ} (h : store.Connected) (backend : Backend σ)
    (paths : List String) {made : List Registration} (hmade : ∀ r ∈ made, store.Linked r) :
    (register backend paths made store).2.Connected ∧
      ∀ pending, (register backend paths made store).1 = .ok pending →
        ∀ r ∈ pending, (register backend paths made store).2.Linked r ∧
          (r ∈ made ∨ r.path ∈ paths ∧ store.Missing backend r.path) := by
  induction paths generalizing made store with
  | nil =>
    refine ⟨h, fun pending hpending r hr => ?_⟩
    obtain rfl := Except.ok.inj hpending
    exact ⟨hmade r hr, Or.inl hr⟩
  | cons path paths ih =>
    rw [WaitStore.register]
    split
    next =>
      obtain ⟨hconnected, hpending⟩ := ih h hmade
      refine ⟨hconnected, fun pending hok r hr => (hpending pending hok r hr).imp_right ?_⟩
      exact Or.imp_right fun ⟨hpath, hmissing⟩ => ⟨List.mem_cons_of_mem _ hpath, hmissing⟩
    next named hmissing =>
      have hreported : ((store.subscribe path).2.report
          (.debug reporter "waiting for write" [("path", Text.quote path)])).Connected :=
        h.subscribe path
      obtain ⟨hconnected, hpending⟩ := ih hreported (linked_append_subscribe hmade path)
      refine ⟨hconnected, fun pending hok r hr => ?_⟩
      obtain ⟨hlinked, hr | ⟨hpath, hother⟩⟩ := hpending pending hok r hr
      · -- made so far: before this path, or for it
        refine ⟨hlinked, (List.mem_append.1 hr).imp_right fun hr => ?_⟩
        obtain rfl := List.mem_singleton.1 hr
        rw [(store.demands_subscribe path).1]
        exact ⟨List.mem_cons_self, named, hmissing⟩
      · -- made for a later path, which is missing as before: the backend has not changed
        obtain ⟨demands, fresh, hframe⟩ := store.subscribe_frame path
        rw [hframe] at hother
        exact ⟨hlinked, Or.inr ⟨List.mem_cons_of_mem _ hpath, hother⟩⟩
    next =>
      refine ⟨h.release _, fun pending hpending => ?_⟩
      contradiction

/-! ### Polling -/

/-- Going through registrations leaves the last ones of them. -/
theorem advance_suffix (store : WaitStore σ) (writeFirst : Nat → Bool) (isCancelled : Bool)
    (pending : List Registration) :
    (store.advance writeFirst isCancelled pending).2.1 <:+ pending := by
  induction pending with
  | nil => exact List.suffix_rfl
  | cons r rest ih =>
    rw [advance]
    split
    · exact ih.trans (List.suffix_cons r rest)
    · split
      · exact List.suffix_rfl
      · exact List.suffix_rfl

/-- Registrations that were all fired are gone through when the token is not cancelled. -/
theorem advance_of_fired (store : WaitStore σ) (writeFirst : Nat → Bool)
    {pending : List Registration} (hfired : ∀ r ∈ pending, r.signal ∈ store.fired) :
    (store.advance writeFirst false pending).2.2 = some (.ok ()) := by
  induction pending with
  | nil => rfl
  | cons r rest ih =>
    -- without a cancellation there is no choice to make
    obtain ⟨hr, hrest⟩ := List.forall_mem_cons.1 hfired
    rw [advance, if_pos ⟨hr, Or.inl Bool.false_ne_true⟩]
    exact ih hrest

/-- The store in which a waiter has gone on as far as it can. -/
def goOn (store : WaitStore σ) (writeFirst : Nat → Bool) (id : String) (waiter : Waiter) :
    WaitStore σ :=
  let outcome :=
    store.advance writeFirst (waiter.token ∈ store.cancelledTokens) waiter.pending
  { store with
    waiters := store.waiters.insert id { waiter with pending := outcome.2.1 }
    log := store.log ++ outcome.1 }

/-- Polling lets a waiter go on and takes it away when it finishes. -/
theorem poll_of_some {store : WaitStore σ} {id : String} {waiter : Waiter}
    (h : store.waiters[id]? = some waiter) (writeFirst : Nat → Bool) :
    store.poll writeFirst id =
      match (store.advance writeFirst (waiter.token ∈ store.cancelledTokens)
        waiter.pending).2.2 with
      | some result => (some result, (store.goOn writeFirst id waiter).dismiss id)
      | none => (none, store.goOn writeFirst id waiter) := by
  rw [poll, h]
  rfl

/-- Nothing happens when nobody waits under an id. -/
theorem poll_of_none {store : WaitStore σ} {id : String} (h : store.waiters[id]? = none)
    (writeFirst : Nat → Bool) : store.poll writeFirst id = (none, store) := by
  rw [poll, h]

/-- What polling leaves behind. -/
theorem poll_cases (store : WaitStore σ) (writeFirst : Nat → Bool) (id : String) :
    (store.poll writeFirst id).2 = store ∨
      ∃ waiter, store.waiters[id]? = some waiter ∧
        ((store.poll writeFirst id).2 = store.goOn writeFirst id waiter ∨
          (store.poll writeFirst id).2 = (store.goOn writeFirst id waiter).dismiss id) := by
  cases h : store.waiters[id]? with
  | none => exact Or.inl (congrArg Prod.snd (poll_of_none h writeFirst))
  | some waiter =>
    refine Or.inr ⟨waiter, rfl, ?_⟩
    rw [poll_of_some h]
    split
    · exact Or.inr rfl
    · exact Or.inl rfl

/-- A waiter was in the store before and has lost the first of its registrations at most. -/
def Continues (store : WaitStore σ) (id : String) (waiter : Waiter) : Prop :=
  ∃ before, store.waiters[id]? = some before ∧ waiter.token = before.token ∧
    waiter.pending <:+ before.pending

theorem continues_of_same {store : WaitStore σ} {id : String} {waiter : Waiter}
    (h : store.waiters[id]? = some waiter) : store.Continues id waiter :=
  ⟨waiter, h, rfl, List.suffix_rfl⟩

/-- A waiter that stays when one goes was there before. -/
theorem waiter_of_dismiss {store : WaitStore σ} {id other : String} {waiter : Waiter}
    (h : (store.dismiss id).waiters[other]? = some waiter) :
    id ≠ other ∧ store.waiters[other]? = some waiter := by
  rw [getElem?_waiters_dismiss] at h
  split at h
  next => contradiction
  next hne => exact ⟨hne, h⟩

/-- A waiter that goes on continues, and so does any other. -/
theorem continues_of_goOn {store : WaitStore σ} {writeFirst : Nat → Bool} {id other : String}
    {polled waiter : Waiter} (hpolled : store.waiters[id]? = some polled)
    (h : (store.goOn writeFirst id polled).waiters[other]? = some waiter) :
    store.Continues other waiter := by
  simp only [goOn, ExtTreeMap.getElem?_insert] at h
  split at h
  next heq =>
    obtain rfl := Std.compare_eq_iff_eq.1 heq
    obtain rfl := Option.some.inj h
    exact ⟨polled, hpolled, rfl, advance_suffix _ _ _ _⟩
  next => exact continues_of_same h

/-- Every waiter after a poll continues. -/
theorem continues_of_poll {store : WaitStore σ} {writeFirst : Nat → Bool} {id other : String}
    {waiter : Waiter} (h : (store.poll writeFirst id).2.waiters[other]? = some waiter) :
    store.Continues other waiter := by
  obtain hsame | ⟨polled, hpolled, hstays | hgoes⟩ := store.poll_cases writeFirst id
  · rw [hsame] at h
    exact continues_of_same h
  · rw [hstays] at h
    exact continues_of_goOn hpolled h
  · rw [hgoes] at h
    exact continues_of_goOn hpolled (waiter_of_dismiss h).2

/-- A waiter that goes on keeps registrations linked. -/
theorem Connected.goOn {store : WaitStore σ} (h : store.Connected) {id : String}
    {polled : Waiter} (hpolled : store.waiters[id]? = some polled) (writeFirst : Nat → Bool) :
    (store.goOn writeFirst id polled).Connected := by
  refine h.mono (fun other waiter hwaiter => ?_) fun _ hr => hr
  obtain ⟨before, hbefore, -, hsuffix⟩ := continues_of_goOn hpolled hwaiter
  exact ⟨before, hbefore, hsuffix.subset⟩

/-- Polling keeps registrations linked. -/
theorem Connected.poll {store : WaitStore σ} (h : store.Connected) (writeFirst : Nat → Bool)
    (id : String) : (store.poll writeFirst id).2.Connected := by
  obtain hsame | ⟨polled, hpolled, hstays | hgoes⟩ := store.poll_cases writeFirst id
  · rw [hsame]
    exact h
  · rw [hstays]
    exact h.goOn hpolled writeFirst
  · rw [hgoes]
    exact (h.goOn hpolled writeFirst).dismiss id

/-- Polling fires no signal and takes none back. -/
theorem fired_poll (store : WaitStore σ) (writeFirst : Nat → Bool) (id : String) :
    (store.poll writeFirst id).2.fired = store.fired := by
  obtain hsame | ⟨polled, -, hstays | hgoes⟩ := store.poll_cases writeFirst id
  · rw [hsame]
  · rw [hstays]
    rfl
  · obtain ⟨demands, hframe⟩ := (store.goOn writeFirst id polled).dismiss_frame id
    rw [hgoes, hframe]
    rfl

/-- Polling changes no other waiter. -/
theorem getElem?_waiters_poll_of_ne {store : WaitStore σ} {id other : String} (hne : id ≠ other)
    (writeFirst : Nat → Bool) :
    (store.poll writeFirst id).2.waiters[other]? = store.waiters[other]? := by
  have hgoOn (polled : Waiter) :
      (store.goOn writeFirst id polled).waiters[other]? = store.waiters[other]? := by
    simp only [goOn, ExtTreeMap.getElem?_insert, Std.compare_eq_iff_eq, if_neg hne]
  obtain hsame | ⟨polled, -, hstays | hgoes⟩ := store.poll_cases writeFirst id
  · rw [hsame]
  · rw [hstays, hgoOn]
  · rw [hgoes, getElem?_waiters_dismiss, if_neg hne, hgoOn]

/-! ### Starting -/

/-- The store in which a waiter has registered. -/
def enrol (store : WaitStore σ) (id : String) (waiter : Waiter) : WaitStore σ :=
  { store with waiters := store.waiters.insert id waiter }

/-- A waiter that cannot register is not started. -/
theorem start_of_error {backend : Backend σ} {store : WaitStore σ} {id : String}
    {paths : List String} {e : Error}
    (h : (register backend paths [] (store.dismiss id)).1 = .error e) (writeFirst : Nat → Bool)
    (token : String) :
    store.start backend writeFirst id token paths =
      (some (.error e), (register backend paths [] (store.dismiss id)).2) := by
  rw [start]
  split
  next heq =>
    rw [heq] at h ⊢
    rw [Except.error.inj h]
  next heq =>
    rw [heq] at h
    contradiction

/-- A waiter that has registered is polled. -/
theorem start_of_ok {backend : Backend σ} {store : WaitStore σ} {id : String}
    {paths : List String} {pending : List Registration}
    (h : (register backend paths [] (store.dismiss id)).1 = .ok pending) (writeFirst : Nat → Bool)
    (token : String) :
    store.start backend writeFirst id token paths =
      ((register backend paths [] (store.dismiss id)).2.enrol id ⟨token, pending⟩).poll
        writeFirst id := by
  rw [start]
  split
  next heq =>
    rw [heq] at h
    contradiction
  next heq =>
    rw [heq] at h ⊢
    rw [Except.ok.inj h]
    rfl

/-- What starting leaves behind: an error of the registration, or the first poll. -/
theorem start_cases (backend : Backend σ) (writeFirst : Nat → Bool) (store : WaitStore σ)
    (id token : String) (paths : List String) :
    (store.start backend writeFirst id token paths).2 =
        (register backend paths [] (store.dismiss id)).2 ∨
      ∃ pending, (register backend paths [] (store.dismiss id)).1 = .ok pending ∧
        (store.start backend writeFirst id token paths).2 =
          (((register backend paths [] (store.dismiss id)).2.enrol id ⟨token, pending⟩).poll
            writeFirst id).2 := by
  cases h : (register backend paths [] (store.dismiss id)).1 with
  | error e => exact Or.inl (congrArg Prod.snd (start_of_error h writeFirst token))
  | ok pending => exact Or.inr ⟨pending, rfl, congrArg Prod.snd (start_of_ok h writeFirst token)⟩

/-- Registering for a new waiter leaves everything but the demands, the number of the next signal
and the report as it is when the old waiter has gone. -/
theorem register_dismiss_frame (backend : Backend σ) (store : WaitStore σ) (id : String)
    (paths : List String) :
    ∃ demands fresh log, (register backend paths [] (store.dismiss id)).2 =
      { store with demands, fresh, log, waiters := store.waiters.erase id } := by
  obtain ⟨demands, fresh, log, hregister⟩ := register_frame backend paths [] (store.dismiss id)
  obtain ⟨demands', hdismiss⟩ := store.dismiss_frame id
  refine ⟨demands, fresh, log, ?_⟩
  rw [hregister, hdismiss]

/-- A waiter that has registered holds linked registrations, and the others are as they were. -/
theorem Connected.enrol {store : WaitStore σ} (h : store.Connected) {backend : Backend σ}
    {id : String} {paths : List String} {pending : List Registration}
    (hok : (WaitStore.register backend paths [] (store.dismiss id)).1 = .ok pending)
    (token : String) :
    ((WaitStore.register backend paths [] (store.dismiss id)).2.enrol id
      ⟨token, pending⟩).Connected := by
  have hnone : ∀ r ∈ ([] : List Registration), (store.dismiss id).Linked r :=
    fun _ hr => absurd hr List.not_mem_nil
  obtain ⟨hconnected, hpending⟩ := (h.dismiss id).register backend paths hnone
  intro other stays hstays r hr
  simp only [WaitStore.enrol, ExtTreeMap.getElem?_insert] at hstays
  split at hstays
  next =>
    obtain rfl := Option.some.inj hstays
    exact (hpending pending hok r hr).1
  next => exact hconnected other stays hstays r hr

/-- Starting keeps registrations linked. -/
theorem Connected.start {store : WaitStore σ} (h : store.Connected) (backend : Backend σ)
    (writeFirst : Nat → Bool) (id token : String) (paths : List String) :
    (store.start backend writeFirst id token paths).2.Connected := by
  obtain herror | ⟨pending, hok, hpoll⟩ := start_cases backend writeFirst store id token paths
  · rw [herror]
    have hnone : ∀ r ∈ ([] : List Registration), (store.dismiss id).Linked r :=
      fun _ hr => absurd hr List.not_mem_nil
    exact ((h.dismiss id).register backend paths hnone).1
  · rw [hpoll]
    exact (h.enrol hok token).poll writeFirst id

/-- Starting fires no signal and takes none back. -/
theorem fired_start (backend : Backend σ) (writeFirst : Nat → Bool) (store : WaitStore σ)
    (id token : String) (paths : List String) :
    (store.start backend writeFirst id token paths).2.fired = store.fired := by
  obtain ⟨demands, fresh, log, hframe⟩ := register_dismiss_frame backend store id paths
  obtain herror | ⟨pending, -, hpoll⟩ := start_cases backend writeFirst store id token paths
  · rw [herror, hframe]
  · rw [hpoll, fired_poll, hframe]
    rfl

/-- Starting a waiter changes no other one. -/
theorem getElem?_waiters_start_of_ne {store : WaitStore σ} {id other : String} (hne : id ≠ other)
    (backend : Backend σ) (writeFirst : Nat → Bool) (token : String) (paths : List String) :
    (store.start backend writeFirst id token paths).2.waiters[other]? = store.waiters[other]? := by
  obtain ⟨demands, fresh, log, hframe⟩ := register_dismiss_frame backend store id paths
  have hcompare : compare id other ≠ .eq := fun heq => hne (Std.compare_eq_iff_eq.1 heq)
  obtain herror | ⟨pending, -, hpoll⟩ := start_cases backend writeFirst store id token paths
  · rw [herror, hframe, ExtTreeMap.getElem?_erase, if_neg hcompare]
  · rw [hpoll, getElem?_waiters_poll_of_ne hne, hframe]
    simp only [enrol, ExtTreeMap.getElem?_insert, ExtTreeMap.getElem?_erase, if_neg hcompare]

/-- A waiter that has just started has registered, and holds the last of its registrations. -/
theorem registered_of_start {backend : Backend σ} {writeFirst : Nat → Bool} {store : WaitStore σ}
    {id token : String} {paths : List String} {waiter : Waiter}
    (h : (store.start backend writeFirst id token paths).2.waiters[id]? = some waiter) :
    ∃ made, (register backend paths [] (store.dismiss id)).1 = .ok made ∧
      waiter.token = token ∧ waiter.pending <:+ made := by
  obtain ⟨demands, fresh, log, hframe⟩ := register_dismiss_frame backend store id paths
  obtain herror | ⟨made, hok, hpoll⟩ := start_cases backend writeFirst store id token paths
  · -- a waiter that could not register is not there
    rw [herror, hframe, ExtTreeMap.getElem?_erase_self] at h
    contradiction
  · rw [hpoll] at h
    obtain ⟨before, hbefore, htoken, hsuffix⟩ := continues_of_poll h
    rw [enrol, ExtTreeMap.getElem?_insert_self, Option.some.injEq] at hbefore
    subst hbefore
    exact ⟨made, hok, htoken, hsuffix⟩

/-- A waiter that has just started waits for paths that are missing, among those it asks for. -/
theorem waiter_of_start {backend : Backend σ} {writeFirst : Nat → Bool} {store : WaitStore σ}
    (hstore : store.Connected) {id token : String} {paths : List String} {waiter : Waiter}
    (h : (store.start backend writeFirst id token paths).2.waiters[id]? = some waiter) :
    waiter.token = token ∧
      ∀ r ∈ waiter.pending, r.path ∈ paths ∧ store.Missing backend r.path := by
  obtain ⟨made, hok, htoken, hsuffix⟩ := registered_of_start h
  have hnone : ∀ r ∈ ([] : List Registration), (store.dismiss id).Linked r :=
    fun _ hr => absurd hr List.not_mem_nil
  obtain ⟨-, hpending⟩ := (hstore.dismiss id).register backend paths hnone
  refine ⟨htoken, fun r hr => ?_⟩
  obtain ⟨-, hearlier | ⟨hpath, hmissing⟩⟩ := hpending made hok r (hsuffix.subset hr)
  · exact absurd hearlier List.not_mem_nil
  · obtain ⟨demands, hdismiss⟩ := store.dismiss_frame id
    rw [hdismiss] at hmissing
    exact ⟨hpath, hmissing⟩

/-! ### Writing and asking -/

/-- A write is refused by the backend, or it is done and the signal of its path is fired if some
waiter asked for it. -/
theorem put_cases (backend : Backend σ) (store : WaitStore σ) (path : String)
    (content : Bytes) :
    (∃ fault, backend.put store.inner path content = .error fault ∧
        store.put backend path content = (.error fault, store)) ∨
      ∃ inner log, backend.put store.inner path content = .ok inner ∧
        ((store.demands[path]? = none ∧
            store.put backend path content = (.ok (), { store with inner, log })) ∨
          ∃ signal, store.demands[path]? = some signal ∧
            store.put backend path content = (.ok (), { store with
              inner
              log
              demands := store.demands.erase path
              fired := store.fired.insert signal })) := by
  rw [put]
  cases hput : backend.put store.inner path content with
  | error fault => exact Or.inl ⟨fault, rfl, rfl⟩
  | ok inner =>
    refine Or.inr ?_
    cases hdemand : store.demands[path]? with
    | none =>
      simp only [hdemand]
      exact ⟨inner, _, rfl, Or.inl ⟨trivial, rfl⟩⟩
    | some signal =>
      simp only [hdemand]
      exact ⟨inner, _, rfl, Or.inr ⟨signal, rfl, rfl⟩⟩

/-- Writing a file changes no waiter. -/
theorem waiters_put (backend : Backend σ) (store : WaitStore σ) (path : String)
    (content : Bytes) : (store.put backend path content).2.waiters = store.waiters := by
  obtain ⟨_, -, hput⟩ | ⟨_, _, -, ⟨-, hput⟩ | ⟨_, -, hput⟩⟩ :=
    put_cases backend store path content
  · rw [hput]
  · rw [hput]
  · rw [hput]

/-- Signals that were fired before a write stay so. -/
theorem fired_put_of_fired {backend : Backend σ} {store : WaitStore σ} {path : String}
    {content : Bytes} {signal : Nat} (h : signal ∈ store.fired) :
    signal ∈ (store.put backend path content).2.fired := by
  obtain ⟨_, -, hput⟩ | ⟨_, _, -, ⟨-, hput⟩ | ⟨_, -, hput⟩⟩ :=
    put_cases backend store path content
  · rw [hput]
    exact h
  · rw [hput]
    exact h
  · rw [hput]
    exact ExtTreeSet.mem_insert.2 (Or.inr h)

/-- A write fires the signal of its path. -/
theorem fired_of_put {backend : Backend σ} {store : WaitStore σ} {content : Bytes}
    {r : Registration} (hlinked : store.Linked r)
    (hdone : (store.put backend r.path content).1 = .ok ()) :
    r.signal ∈ (store.put backend r.path content).2.fired := by
  obtain hfired | hdemand := hlinked
  · exact fired_put_of_fired hfired
  · obtain ⟨_, -, hput⟩ | ⟨_, _, -, ⟨hnone, -⟩ | ⟨signal, hsome, hput⟩⟩ :=
      put_cases backend store r.path content
    · rw [hput] at hdone
      contradiction
    · -- the path is demanded
      exact absurd (hdemand.symm.trans hnone) (Option.some_ne_none _)
    · rw [hput, Option.some.inj (hdemand.symm.trans hsome)]
      exact ExtTreeSet.mem_insert_self

/-- Writing a file keeps registrations linked. -/
theorem Linked.put {store : WaitStore σ} {r : Registration} (h : store.Linked r)
    (backend : Backend σ) (path : String) (content : Bytes) :
    (store.put backend path content).2.Linked r := by
  obtain hfired | hdemand := h
  · exact Or.inl (fired_put_of_fired hfired)
  · obtain ⟨_, -, hput⟩ | ⟨_, _, -, ⟨-, hput⟩ | ⟨signal, hsome, hput⟩⟩ :=
      put_cases backend store path content
    · rw [hput]
      exact Or.inr hdemand
    · rw [hput]
      exact Or.inr hdemand
    · rw [hput]
      -- the demand that is taken away is the one that is fired
      by_cases hpath : path = r.path
      · subst hpath
        obtain rfl := Option.some.inj (hdemand.symm.trans hsome)
        exact Or.inl ExtTreeSet.mem_insert_self
      · refine Or.inr ?_
        simp only [ExtTreeMap.getElem?_erase, Std.compare_eq_iff_eq, if_neg hpath]
        exact hdemand

/-- A write fires the signal of its path, so that the registrations for the path stay linked. -/
theorem Connected.put {store : WaitStore σ} (h : store.Connected) (backend : Backend σ)
    (path : String) (content : Bytes) : (store.put backend path content).2.Connected := by
  refine h.mono (fun id waiter hwaiter => ?_) fun r hr => hr.put backend path content
  rw [waiters_put] at hwaiter
  exact ⟨waiter, hwaiter, List.Subset.refl _⟩

/-- Demands that somebody holds are kept when the pending paths are asked for. -/
theorem Connected.pendingPaths {store : WaitStore σ} (h : store.Connected) :
    store.pendingPaths.2.Connected := by
  intro id waiter hwaiter r hr
  refine (h id waiter hwaiter r hr).imp_right fun hdemand => ?_
  refine (demands_pendingPaths_iff store r.path r.signal).2 ⟨hdemand, fun hzero => ?_⟩
  exact (receivers_eq_zero_iff store r.signal).1 hzero id waiter hwaiter r hr rfl

/-- Removing a path changes the backend at most. -/
theorem delete_frame (backend : Backend σ) (store : WaitStore σ) (path : String) :
    ∃ inner, (store.delete backend path).2 = { store with inner } := by
  rw [delete]
  split
  · exact ⟨_, rfl⟩
  · exact ⟨_, rfl⟩

/-! ### Steps -/

/-- Whatever the step, registrations stay linked. -/
theorem Connected.step {store : WaitStore σ} (h : store.Connected) (backend : Backend σ)
    (writeFirst : Nat → Bool) (step : Step) :
    (store.step backend writeFirst step).2.Connected := by
  cases step with
  | start id token paths => exact h.start backend writeFirst id token paths
  | poll id => exact h.poll writeFirst id
  | drop id => exact h.dismiss id
  | cancel token => exact h
  | put path content => exact h.put backend path content
  | get path => exact h
  | stat path => exact h
  | list path => exact h
  | delete path =>
    obtain ⟨inner, hframe⟩ := delete_frame backend store path
    show (store.delete backend path).2.Connected
    rw [hframe]
    exact h
  | pendingPaths => exact h.pendingPaths

/-- The waiter that a step is about. -/
def Step.waiter? : Step → Option String
  | .start id _ _ => some id
  | .poll id => some id
  | .drop id => some id
  | _ => none

/-- A step changes no waiter but the one it is about. -/
theorem getElem?_waiters_step_of_ne {store : WaitStore σ} {step : Step} {id : String}
    (hstep : step.waiter? ≠ some id) (backend : Backend σ) (writeFirst : Nat → Bool) :
    (store.step backend writeFirst step).2.waiters[id]? = store.waiters[id]? := by
  cases step with
  | start other token paths =>
    exact getElem?_waiters_start_of_ne (fun heq => hstep (congrArg some heq)) _ _ _ _
  | poll other => exact getElem?_waiters_poll_of_ne (fun heq => hstep (congrArg some heq)) _
  | drop other =>
    show (store.dismiss other).waiters[id]? = store.waiters[id]?
    rw [getElem?_waiters_dismiss, if_neg fun heq => hstep (congrArg some heq)]
  | cancel token => rfl
  | put path content =>
    show (store.put backend path content).2.waiters[id]? = store.waiters[id]?
    rw [waiters_put]
  | get path => rfl
  | stat path => rfl
  | list path => rfl
  | delete path =>
    obtain ⟨inner, hframe⟩ := delete_frame backend store path
    show (store.delete backend path).2.waiters[id]? = store.waiters[id]?
    rw [hframe]
  | pendingPaths => rfl

/-- Every waiter after a step that does not start it continues. -/
theorem continues_of_step {backend : Backend σ} {writeFirst : Nat → Bool} {store : WaitStore σ}
    {step : Step} {id : String} {waiter : Waiter}
    (hstep : ∀ token paths, step ≠ .start id token paths)
    (h : (store.step backend writeFirst step).2.waiters[id]? = some waiter) :
    store.Continues id waiter := by
  by_cases habout : step.waiter? = some id
  · cases step with
    | start other token paths =>
      obtain rfl : other = id := Option.some.inj habout
      exact absurd rfl (hstep token paths)
    | poll other =>
      obtain rfl : other = id := Option.some.inj habout
      exact continues_of_poll h
    | drop other =>
      obtain rfl : other = id := Option.some.inj habout
      exact absurd rfl (waiter_of_dismiss h).1
    | _ => contradiction
  · -- a step that is about another waiter leaves this one
    rw [getElem?_waiters_step_of_ne habout] at h
    exact continues_of_same h

/-- A signal that was fired stays so. -/
theorem fired_step_of_fired {backend : Backend σ} {writeFirst : Nat → Bool}
    {store : WaitStore σ} {signal : Nat} (h : signal ∈ store.fired) (step : Step) :
    signal ∈ (store.step backend writeFirst step).2.fired := by
  cases step with
  | start id token paths =>
    show signal ∈ (store.start backend writeFirst id token paths).2.fired
    rw [fired_start]
    exact h
  | poll id =>
    show signal ∈ (store.poll writeFirst id).2.fired
    rw [fired_poll]
    exact h
  | drop id =>
    obtain ⟨demands, hframe⟩ := store.dismiss_frame id
    show signal ∈ (store.dismiss id).fired
    rw [hframe]
    exact h
  | cancel token => exact h
  | put path content => exact fired_put_of_fired h
  | get path => exact h
  | stat path => exact h
  | list path => exact h
  | delete path =>
    obtain ⟨inner, hframe⟩ := delete_frame backend store path
    show signal ∈ (store.delete backend path).2.fired
    rw [hframe]
    exact h
  | pendingPaths => exact h

end RegistryBench.Storage.WaitStore
