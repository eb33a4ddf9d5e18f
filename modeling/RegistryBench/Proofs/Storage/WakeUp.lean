import RegistryBench.Proofs.Storage.Registrations
import RegistryBench.Proofs.Storage.Runs
import RegistryBench.Storage.Memory

/-!
# Waiters are woken up

A waiter is bound to finish once every path that was missing when it registered has been written.
Its registrations are linked all along, so the write of a path fires the signal that the waiter
holds for it, whatever happens to other waiters on the path and to the file afterwards.
-/

namespace RegistryBench.Storage.WaitStore

variable {σ : Type}

/-- Every registration that a waiter holds is linked, after every run. -/
theorem connected_after {store : WaitStore σ} (h : store.Connected) (backend : Backend σ)
    (moves : List Move) : (store.after backend moves).Connected := by
  induction moves generalizing store with
  | nil => exact h
  | cons m moves ih => exact ih (h.step backend m.writeFirst m.step)

/-- A signal that was fired stays fired. -/
theorem fired_after_of_fired {backend : Backend σ} {store : WaitStore σ} {signal : Nat}
    (h : signal ∈ store.fired) (moves : List Move) :
    signal ∈ (store.after backend moves).fired := by
  induction moves generalizing store with
  | nil => exact h
  | cons m moves ih => exact ih (fired_step_of_fired h m.step)

/-- A waiter after a run in which it is not started anew continues. -/
theorem continues_of_after {backend : Backend σ} {store : WaitStore σ} {moves : List Move}
    {id : String} {waiter : Waiter}
    (hmoves : ∀ m ∈ moves, ∀ token paths, m.step ≠ .start id token paths)
    (h : (store.after backend moves).waiters[id]? = some waiter) : store.Continues id waiter := by
  induction moves generalizing store with
  | nil => exact continues_of_same h
  | cons m moves ih =>
    obtain ⟨hm, hmoves⟩ := List.forall_mem_cons.1 hmoves
    obtain ⟨between, hbetween, htoken, hsuffix⟩ := ih hmoves h
    obtain ⟨before, hbefore, htoken', hsuffix'⟩ := continues_of_step hm hbetween
    exact ⟨before, hbefore, htoken.trans htoken', hsuffix.trans hsuffix'⟩

/-- What a waiter still waits for after a run was fired by every write of its path in the run. -/
theorem fired_of_wrote {backend : Backend σ} {store : WaitStore σ} (hstore : store.Connected)
    {moves : List Move} {id : String} {waiter : Waiter}
    (hmoves : ∀ m ∈ moves, ∀ token paths, m.step ≠ .start id token paths)
    (h : (store.after backend moves).waiters[id]? = some waiter) {r : Registration}
    (hr : r ∈ waiter.pending) (hwrote : store.Wrote backend moves r.path) :
    r.signal ∈ (store.after backend moves).fired := by
  induction moves generalizing store with
  | nil =>
    obtain ⟨content, hmem⟩ := hwrote
    exact absurd hmem List.not_mem_nil
  | cons m moves ih =>
    obtain ⟨hm, hmoves'⟩ := List.forall_mem_cons.1 hmoves
    obtain ⟨content, hput, hdone⟩ | hlater := (wrote_cons_iff backend store m moves r.path).1 hwrote
    · -- the waiter held the registration when the write was done
      obtain ⟨before, hbefore, -, hsuffix⟩ := continues_of_after hmoves h
      have hlinked : store.Linked r := hstore id before hbefore r (hsuffix.subset hr)
      obtain ⟨choice, step⟩ := m
      obtain rfl : step = .put r.path content := hput
      have hfired : r.signal ∈ (store.put backend r.path content).2.fired :=
        fired_of_put hlinked (Answer.changed.inj hdone)
      exact fired_after_of_fired hfired moves
    · exact ih (hstore.step backend m.writeFirst m.step) hmoves' h hlater

/-- A waiter that has started and is still there returns at its next poll, when its token is not
cancelled and every path that was missing when it started has been written since. -/
theorem poll_of_wrote (backend : Backend σ) (inner : σ) (before later : List Move)
    (writeFirst writeFirst' : Nat → Bool) (id token : String) (paths : List String) :
    let idle := (init inner).after backend before
    let started := (idle.move backend ⟨writeFirst, .start id token paths⟩).2
    let store := started.after backend later
    (∀ m ∈ later, ∀ token paths, m.step ≠ .start id token paths) →
      id ∈ store.waiters → token ∉ store.cancelledTokens →
      (∀ path ∈ paths, idle.Missing backend path → started.Wrote backend later path) →
        (store.move backend ⟨writeFirst', .poll id⟩).1 = .waited (some (.ok ())) := by
  intro idle started store hlater hlive htoken hwrote
  have hidle : idle.Connected := connected_after (connected_init inner) backend before
  have hstarted : started.Connected := hidle.step backend writeFirst (.start id token paths)
  obtain ⟨waiter, hwaiter⟩ := Option.isSome_iff_exists.1
    (Std.ExtTreeMap.mem_iff_isSome_getElem?.1 hlive)
  -- what the waiter still holds it has registered for when it was started
  obtain ⟨registered, hregistered, hsame, hsuffix⟩ := continues_of_after hlater hwaiter
  obtain ⟨hregisteredToken, hpaths⟩ := waiter_of_start hidle hregistered
  have hfired : ∀ r ∈ waiter.pending, r.signal ∈ store.fired := by
    intro r hr
    obtain ⟨hpath, hmissing⟩ := hpaths r (hsuffix.subset hr)
    exact fired_of_wrote hstarted hlater hwaiter hr (hwrote r.path hpath hmissing)
  have hlive : decide (waiter.token ∈ store.cancelledTokens) = false := by
    rw [hsame, hregisteredToken]
    exact decide_eq_false htoken
  show Answer.waited (store.poll writeFirst' id).1 = .waited (some (.ok ()))
  rw [poll_of_some hwaiter, hlive, advance_of_fired store writeFirst' hfired]

section SharedSignal

/-- The choices that notice a cancellation first. -/
def cancelFirst : Nat → Bool := fun _ => false

/-- A waiter on two missing paths has registered. -/
def sharing : WaitStore Files :=
  ((init Files.empty).move Files.backend
    ⟨cancelFirst, .start "first" "mine" ["/a", "/b"]⟩).2

/-- Another waiter on one of the paths comes and is cancelled, both paths are written, and one of
the files is removed again. -/
def otherCancelled : List Move :=
  [.start "second" "other" ["/a"], .cancel "other", .poll "second", .put "/b" [], .put "/a" [],
    .delete "/a", .pendingPaths].map (⟨cancelFirst, ·⟩)

/-- A waiter returns although one that shares its signal was cancelled and its file is gone. -/
theorem poll_of_wrote_shared :
    "first" ∈ (sharing.after Files.backend otherCancelled).waiters ∧
      "mine" ∉ (sharing.after Files.backend otherCancelled).cancelledTokens ∧
      (∀ path ∈ ["/a", "/b"], sharing.Wrote Files.backend otherCancelled path) ∧
      ((sharing.after Files.backend otherCancelled).move Files.backend
        ⟨cancelFirst, .poll "first"⟩).1 = .waited (some (.ok ())) := by
  have hlater : ∀ m ∈ otherCancelled, ∀ token paths, m.step ≠ .start "first" token paths := by
    simp [otherCancelled]
  have hlive : "first" ∈ (sharing.after Files.backend otherCancelled).waiters := by
    decide +kernel
  have htoken : "mine" ∉ (sharing.after Files.backend otherCancelled).cancelledTokens := by
    decide +kernel
  have hwrote : ∀ path ∈ ["/a", "/b"], sharing.Wrote Files.backend otherCancelled path := by
    intro path hpath
    obtain rfl | rfl : path = "/a" ∨ path = "/b" := by simpa using hpath
    · exact ⟨[], List.mem_of_getElem? (i := 4) rfl⟩
    · exact ⟨[], List.mem_of_getElem? (i := 3) rfl⟩
  exact ⟨hlive, htoken, hwrote, poll_of_wrote Files.backend Files.empty [] otherCancelled
    cancelFirst cancelFirst "first" "mine" ["/a", "/b"] hlater hlive htoken
    fun path hpath _ => hwrote path hpath⟩

end SharedSignal

end RegistryBench.Storage.WaitStore
