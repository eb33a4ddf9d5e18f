import RegistryBench.Storage.Waiting

/-!
# Runs of a waiting store

A run is a list of moves: any interleaving of starts, polls, cancellations, drops and storage
operations, each with the choices that polling is free to make.
-/

namespace RegistryBench.Storage.WaitStore

variable {σ : Type}

/-- A step, with what is noticed first where a write and a cancellation may be noticed both. -/
structure Move where
  /-- By the number of registrations left, whether the write is noticed first. -/
  writeFirst : Nat → Bool
  /-- The step. -/
  step : Step

/-- What a move answers, and the store afterwards. -/
def move (backend : Backend σ) (store : WaitStore σ) (m : Move) : Answer × WaitStore σ :=
  store.step backend m.writeFirst m.step

/-- The store after a run. -/
def after (backend : Backend σ) (store : WaitStore σ) (moves : List Move) : WaitStore σ :=
  moves.foldl (fun store m => (store.move backend m).2) store

/-- The steps of a run with their answers, oldest first. -/
def transcript (backend : Backend σ) (store : WaitStore σ) : List Move → List (Step × Answer)
  | [] => []
  | m :: moves =>
    (m.step, (store.move backend m).1) :: transcript backend (store.move backend m).2 moves

/-- A file was written in a run: the write was done and not refused. -/
def Wrote (backend : Backend σ) (store : WaitStore σ) (moves : List Move) (path : String) : Prop :=
  ∃ content, (.put path content, .changed (.ok ())) ∈ store.transcript backend moves

@[simp]
theorem after_nil (backend : Backend σ) (store : WaitStore σ) :
    store.after backend [] = store := rfl

@[simp]
theorem after_cons (backend : Backend σ) (store : WaitStore σ) (m : Move) (moves : List Move) :
    store.after backend (m :: moves) = (store.move backend m).2.after backend moves := rfl

theorem after_append (backend : Backend σ) (store : WaitStore σ) (moves later : List Move) :
    store.after backend (moves ++ later) = (store.after backend moves).after backend later :=
  List.foldl_append

theorem transcript_append (backend : Backend σ) (store : WaitStore σ) (moves later : List Move) :
    store.transcript backend (moves ++ later) =
      store.transcript backend moves ++ (store.after backend moves).transcript backend later := by
  induction moves generalizing store with
  | nil => rfl
  | cons m moves ih => exact congrArg ((m.step, (store.move backend m).1) :: ·) (ih _)

/-- What a run has written stays written when the run goes on. -/
theorem Wrote.append {backend : Backend σ} {store : WaitStore σ} {moves : List Move}
    {path : String} (h : store.Wrote backend moves path) (later : List Move) :
    store.Wrote backend (moves ++ later) path := by
  obtain ⟨content, hmem⟩ := h
  refine ⟨content, ?_⟩
  rw [transcript_append]
  exact List.mem_append_left _ hmem

/-- A path is written by the first move of a run or by the rest. -/
theorem wrote_cons_iff (backend : Backend σ) (store : WaitStore σ) (m : Move)
    (moves : List Move) (path : String) :
    store.Wrote backend (m :: moves) path ↔
      (∃ content, m.step = .put path content ∧
        (store.move backend m).1 = .changed (.ok ())) ∨
      (store.move backend m).2.Wrote backend moves path := by
  simp only [Wrote, transcript, List.mem_cons, Prod.mk.injEq, exists_or, eq_comm]

end RegistryBench.Storage.WaitStore
