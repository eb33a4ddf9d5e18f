import RegistryBench.Proofs.Storage.Demands
import RegistryBench.Proofs.Storage.Isolation

/-!
# Waiting for paths that exist

Over storage in memory a path exists where a file is, and also where files lie below. A waiter waits
for a write of the very path, so none waits for a path that holds a file; but it goes on waiting
for one that has come to exist as a directory, when a file was written below it.

* `file_of_after`: where a file comes from in a run.
* `absent_of_outstanding`: a path that is waited for holds no file.
* `blocked_iff_directory` says for every run which waiters wait for nothing but paths that exist,
  and `blocked_on_directory` is a run with one.
-/

namespace RegistryBench.Storage

open Std (ExtTreeMap ExtTreeSet)

/-! ### Files that are there -/

/-- A path that is not found holds no file. -/
theorem Files.absent_of_stat {files : Files} {path named : String}
    (h : files.stat path = .error (.pathNotFound named)) :
    isPath path = true ∧ files.contents[path]? = none := by
  unfold Files.stat at h
  by_cases hpath : isPath path = true
  · refine ⟨hpath, ?_⟩
    cases hfile : files.contents[path]? with
    | none => rfl
    | some content =>
      simp only [checkPath, if_pos hpath, hfile] at h
      contradiction
  · simp only [checkPath, if_neg hpath] at h
    injection h with hfault
    contradiction

/-- A path without a file is a directory when files lie below it, and is not found otherwise. -/
theorem Files.stat_of_absent {files : Files} {path : String} (hpath : isPath path = true)
    (hfile : files.contents[path]? = none) :
    files.stat path =
      if files.paths.any (isBelow path) then .ok ⟨path, 0, true⟩
      else .error (.pathNotFound path) := by
  unfold Files.stat
  simp only [checkPath, if_pos hpath, hfile]
  rfl

/-- What succeeds after the check of a path succeeds without it. -/
theorem ok_of_checkPath {α : Type} {path : String} {result : Except Fault α} {a : α}
    (h : (do checkPath path; result) = .ok a) : result = .ok a := by
  unfold checkPath at h
  split at h
  · exact h
  · contradiction

/-- A file that is there after a write was written or was there. -/
theorem Files.file_of_put {files written : Files} {path other : String} {bytes content : Bytes}
    (h : files.put path bytes = .ok written) (hfile : written.contents[other]? = some content) :
    path = other ∨ files.contents[other]? = some content := by
  have hput := ok_of_checkPath h
  split at hput
  next => contradiction
  next =>
    obtain rfl := Except.ok.inj hput
    rw [ExtTreeMap.getElem?_insert] at hfile
    split at hfile
    next heq => exact Or.inl (Std.compare_eq_iff_eq.1 heq)
    next => exact Or.inr hfile

/-- A file that is left by a removal was there. -/
theorem Files.file_of_delete {files left : Files} {path other : String} {content : Bytes}
    (h : files.delete path = .ok left) (hfile : left.contents[other]? = some content) :
    files.contents[other]? = some content := by
  have hdelete := ok_of_checkPath h
  split at hdelete
  next =>
    obtain rfl := Except.ok.inj hdelete
    rw [ExtTreeMap.getElem?_filter', Option.filter_eq_some_iff] at hfile
    exact hfile.1
  next => contradiction

namespace WaitStore

/-- A file that is there after a step was there, or the step has written it. -/
theorem file_of_step {writeFirst : Nat → Bool} {store : WaitStore Files} {step : Step}
    {path : String} {content : Bytes}
    (h : (store.step Files.backend writeFirst step).2.inner.contents[path]? = some content) :
    store.inner.contents[path]? = some content ∨
      ∃ bytes, step = .put path bytes ∧
        (store.step Files.backend writeFirst step).1 = .changed (.ok ()) := by
  cases step with
  | put other bytes =>
    have hinner : (store.put Files.backend other bytes).2.inner =
        (Backend.change store.inner (store.inner.put other bytes)).2 :=
      inner_step Files.backend writeFirst store (.put other bytes)
    have hanswer : (store.put Files.backend other bytes).1 =
        (store.inner.put other bytes).map fun _ => () :=
      answer_put Files.backend store other bytes
    change (store.put Files.backend other bytes).2.inner.contents[path]? = some content at h
    rw [hinner] at h
    cases hput : store.inner.put other bytes with
    | error fault =>
      rw [hput] at h
      exact Or.inl h
    | ok written =>
      rw [hput] at h hanswer
      rcases Files.file_of_put hput h with rfl | hbefore
      · exact Or.inr ⟨bytes, rfl, congrArg Answer.changed hanswer⟩
      · exact Or.inl hbefore
  | delete other =>
    left
    have hinner : (store.delete Files.backend other).2.inner =
        (Backend.change store.inner (store.inner.delete other)).2 :=
      inner_step Files.backend writeFirst store (.delete other)
    change (store.delete Files.backend other).2.inner.contents[path]? = some content at h
    rw [hinner] at h
    cases hdelete : store.inner.delete other with
    | error fault =>
      rw [hdelete] at h
      exact h
    | ok left =>
      rw [hdelete] at h
      exact Files.file_of_delete hdelete h
  | _ =>
    -- no other step touches the files
    left
    rw [inner_step] at h
    exact h

/-- A file that is there after a run was there, or has been written. -/
theorem file_of_after {store : WaitStore Files} {moves : List Move} {path : String}
    {content : Bytes} (h : (store.after Files.backend moves).inner.contents[path]? = some content) :
    (∃ content, store.inner.contents[path]? = some content) ∨
      store.Wrote Files.backend moves path := by
  induction moves generalizing store content with
  | nil => exact Or.inl ⟨content, h⟩
  | cons m moves ih =>
    rw [wrote_cons_iff]
    rcases ih h with ⟨between, hbetween⟩ | hlater
    · rcases file_of_step hbetween with hbefore | hwritten
      · exact Or.inl ⟨between, hbefore⟩
      · exact Or.inr (Or.inl hwritten)
    · exact Or.inr (Or.inr hlater)

/-- A path that is waited for holds no file: it was missing when the waiter was started, and has not
been written since. -/
theorem absent_of_outstanding {inner : Files} {moves : List Move} {id : String}
    {r : Registration} (h : Outstanding Files.backend inner moves id r) :
    isPath r.path = true ∧
      ((init inner).after Files.backend moves).inner.contents[r.path]? = none := by
  cases h with
  | @since before later writeFirst _ token paths waiter _ hlater hwaiter hr hunwritten =>
    have hidle := connected_after (connected_init inner) Files.backend before
    rw [after_append, after_cons] at hwaiter
    obtain ⟨started, hstarted, -, hsuffix⟩ := continues_of_after hlater hwaiter
    obtain ⟨-, hpaths⟩ := waiter_of_start hidle hstarted
    obtain ⟨-, named, hmissing⟩ := hpaths r (hsuffix.subset hr)
    obtain ⟨hpath, hfile⟩ := Files.absent_of_stat hmissing
    refine ⟨hpath, ?_⟩
    rw [Option.eq_none_iff_forall_ne_some]
    intro content hcontent
    rw [after_append, after_cons] at hcontent
    rw [after_append] at hunwritten
    rcases file_of_after hcontent with ⟨earlier, hearlier⟩ | hwrote
    · -- starting a waiter writes nothing
      have hsame := inner_start Files.backend writeFirst
        ((init inner).after Files.backend before) id token paths
      have hearlier : ((init inner).after Files.backend before).inner.contents[r.path]? =
          some earlier := hsame ▸ hearlier
      exact Option.some_ne_none _ (hearlier.symm.trans hfile)
    · exact hunwritten hwrote

/-! ### Waiters that return -/

/-- A waiter whose token is not cancelled returns when all it waits for has been written since it
was started, and only then. -/
theorem poll_ok_iff {σ : Type} {backend : Backend σ} {inner : σ} {moves : List Move} {id : String}
    {waiter : Waiter} (hwaiter : ((init inner).after backend moves).waiters[id]? = some waiter)
    (htoken : waiter.token ∉ ((init inner).after backend moves).cancelledTokens)
    (writeFirst : Nat → Bool) :
    (((init inner).after backend moves).poll writeFirst id).1 = some (.ok ()) ↔
      ¬ ∃ r, Outstanding backend inner moves id r := by
  let store := (init inner).after backend moves
  have hcancelled : decide (waiter.token ∈ store.cancelledTokens) = false := decide_eq_false htoken
  rw [result_poll_of_some hwaiter, hcancelled]
  constructor
  · -- the waiter would have stopped at an outstanding registration
    rintro hok ⟨r, h⟩
    obtain ⟨held, hheld, hr, hunfired⟩ := (outstanding_iff _ _ _ _ _).1 h
    obtain rfl := Option.some.inj (hwaiter.symm.trans hheld)
    rcases advance_some hok with ⟨-, hall⟩ | ⟨_, _, _, -, -, herror, -⟩
    · exact hunfired (hall r hr)
    · contradiction
  · intro hnone
    apply advance_of_fired
    intro r hr
    apply Classical.byContradiction
    -- a held registration that was not fired is outstanding
    intro hunfired
    exact hnone ⟨r, (outstanding_iff _ _ _ _ _).2 ⟨waiter, hwaiter, hr, hunfired⟩⟩

/-- A pending path holds no file, so it exists only as a directory. A waiter whose token is not
cancelled and whose paths all exist returns at its next poll, unless one of them exists as a
directory and has not been written since the waiter was started. -/
theorem blocked_iff_directory (inner : Files) (moves : List Move) :
    let store := (init inner).after Files.backend moves
    (∀ path ∈ store.pendingPaths.1, store.stat Files.backend path =
      if store.inner.paths.any (Files.isBelow path) then .ok ⟨path, 0, true⟩
      else .error (.pathNotFound path)) ∧
    ∀ (id : String) (waiter : Waiter) (writeFirst : Nat → Bool),
      store.waiters[id]? = some waiter → waiter.token ∉ store.cancelledTokens →
      (∀ r ∈ waiter.pending, ∃ info, store.stat Files.backend r.path = .ok info) →
        ((store.move Files.backend ⟨writeFirst, .poll id⟩).1 = .waited (some (.ok ())) ↔
          ¬ ∃ r, Outstanding Files.backend inner moves id r ∧
            store.stat Files.backend r.path = .ok ⟨r.path, 0, true⟩) := by
  intro store
  have hstat (id : String) (r : Registration)
      (h : Outstanding Files.backend inner moves id r) :
      store.stat Files.backend r.path =
        if store.inner.paths.any (Files.isBelow r.path) then .ok ⟨r.path, 0, true⟩
        else .error (.pathNotFound r.path) := by
    obtain ⟨hpath, hfile⟩ := absent_of_outstanding h
    exact Files.stat_of_absent hpath hfile
  refine ⟨fun path hpath => ?_, fun id waiter writeFirst hwaiter htoken hexist => ?_⟩
  · obtain ⟨id, r, h, rfl⟩ := (mem_pendingPaths_after_iff _ _ _ _).1 hpath
    exact hstat id r h
  · have hanswer : (store.move Files.backend ⟨writeFirst, .poll id⟩).1 =
        .waited (store.poll writeFirst id).1 := rfl
    rw [hanswer, Answer.waited.injEq, poll_ok_iff hwaiter htoken]
    refine not_congr (exists_congr fun r => ⟨fun h => ⟨h, ?_⟩, And.left⟩)
    -- the path exists and holds no file
    obtain ⟨held, hheld, hr, -⟩ := (outstanding_iff _ _ _ _ _).1 h
    obtain rfl := Option.some.inj (hwaiter.symm.trans hheld)
    obtain ⟨info, hinfo⟩ := hexist r hr
    rw [hstat id r h] at hinfo ⊢
    split at hinfo
    next hbelow => rw [if_pos hbelow]
    next => contradiction

section Directories

/-- A waiter waits for a path, and a file is written below it. -/
def writtenBelow : List Move :=
  [.start "first" "mine" ["/a"], .put "/a/b" []].map (⟨cancelFirst, ·⟩)

/-- A waiter goes on waiting for a path that exists, and the path stays pending. -/
theorem blocked_on_directory :
    let store := (init Files.empty).after Files.backend writtenBelow
    "/a" ∈ store.pendingPaths.1 ∧ store.stat Files.backend "/a" = .ok ⟨"/a", 0, true⟩ ∧
      store.waiters["first"]? = some ⟨"mine", [⟨"/a", 0⟩]⟩ ∧ "mine" ∉ store.cancelledTokens ∧
      (store.move Files.backend ⟨cancelFirst, .poll "first"⟩).1 = .waited none := by
  decide +kernel

/-- A waiter returns when the path itself is written in the end. -/
theorem blocked_iff_directory_written :
    let moves := writtenBelow ++ [⟨cancelFirst, .put "/a" []⟩]
    let store := (init Files.empty).after Files.backend moves
    store.waiters["first"]? = some ⟨"mine", [⟨"/a", 0⟩]⟩ ∧
      (store.move Files.backend ⟨cancelFirst, .poll "first"⟩).1 = .waited (some (.ok ())) := by
  intro moves store
  have hwaiter : store.waiters["first"]? = some ⟨"mine", [⟨"/a", 0⟩]⟩ := by decide +kernel
  have htoken : "mine" ∉ store.cancelledTokens := by decide +kernel
  have hfile : store.stat Files.backend "/a" = .ok ⟨"/a", 0, false⟩ := by decide +kernel
  have hexist : ∀ r ∈ [Registration.mk "/a" 0],
      ∃ info, store.stat Files.backend r.path = .ok info := by
    intro r hr
    rw [List.mem_singleton.1 hr]
    exact ⟨_, hfile⟩
  obtain ⟨-, hpoll⟩ := blocked_iff_directory Files.empty moves
  refine ⟨hwaiter, (hpoll "first" _ cancelFirst hwaiter htoken hexist).2 ?_⟩
  rintro ⟨r, h, hdirectory⟩
  obtain ⟨held, hheld, hr, -⟩ := (outstanding_iff _ _ _ _ _).1 h
  obtain rfl := Option.some.inj (hwaiter.symm.trans hheld)
  obtain rfl := List.mem_singleton.1 hr
  -- both a file and a directory now, and told to be a file
  have hsame := Except.ok.inj (hfile.symm.trans hdirectory)
  exact Bool.false_ne_true (congrArg FileInfo.isDirectory hsame)

end Directories

end WaitStore

end RegistryBench.Storage
