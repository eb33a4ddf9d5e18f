import RegistryBench.Proofs.ControlPlane.Atomicity

/-!
# Transcripts of runs

The transcript of a run says what was done when and what was answered, oldest first. What is
stored in the end can be read off it, because only operations that were served have written
anything: `after_induction` proves what holds of a transcript and the store that it leads to.
-/

namespace RegistryBench.ControlPlane

/-- An operation, when it was done, and what was answered. -/
structure Exchange where
  /-- When the operation was done. -/
  now : Timestamp
  /-- The operation. -/
  operation : Operation
  /-- What was answered. -/
  answer : Except Error Outcome

/-- The request that an exchange has served, unless it has failed. -/
def Exchange.served? (exchange : Exchange) : Option Request :=
  match exchange.answer with
  | .ok _ => some exchange.operation.request
  | .error _ => none

@[simp]
theorem Exchange.served?_ok (now : Timestamp) (operation : Operation) (outcome : Outcome) :
    (Exchange.mk now operation (.ok outcome)).served? = some operation.request := rfl

@[simp]
theorem Exchange.served?_error (now : Timestamp) (operation : Operation) (e : Error) :
    (Exchange.mk now operation (.error e)).served? = none := rfl

/-- The exchanges of some operations, oldest first. -/
def transcript (c : ControlPlane) : List (Timestamp × Operation) → List Exchange
  | [] => []
  | (now, operation) :: operations =>
    ⟨now, operation, (c.serve (perform now operation)).1⟩ ::
      transcript (c.serve (perform now operation)).2 operations

/-- The transcript of a run goes on with that of the operations that follow. -/
theorem transcript_append (c : ControlPlane) (operations later : List (Timestamp × Operation)) :
    c.transcript (operations ++ later) =
      c.transcript operations ++ (c.after operations).transcript later := by
  induction operations generalizing c with
  | nil => rfl
  | cons step operations ih => exact congrArg (_ :: ·) (ih _)

/-- The last operation of a run adds its exchange. -/
theorem transcript_concat (c : ControlPlane) (operations : List (Timestamp × Operation))
    (now : Timestamp) (operation : Operation) :
    c.transcript (operations ++ [(now, operation)]) =
      c.transcript operations ++
        [⟨now, operation, ((c.after operations).serve (perform now operation)).1⟩] :=
  transcript_append c operations _

/-- Exchanges are about the operations of the run. -/
theorem mem_operations_of_mem_transcript {c : ControlPlane}
    {operations : List (Timestamp × Operation)} {exchange : Exchange}
    (h : exchange ∈ c.transcript operations) :
    (exchange.now, exchange.operation) ∈ operations := by
  induction operations generalizing c with
  | nil => exact absurd h List.not_mem_nil
  | cons step operations ih =>
    obtain rfl | hlater := List.mem_cons.1 h
    · exact List.mem_cons_self
    · exact List.mem_cons_of_mem _ (ih hlater)

/-- What is picked from the entries of a list and from one more. -/
theorem filterMap_concat {α β : Type} (pick : α → Option β) (entries : List α) (entry : α) :
    (entries ++ [entry]).filterMap pick = entries.filterMap pick ++ (pick entry).toList := by
  rw [List.filterMap_append, List.filterMap_cons]
  cases pick entry with
  | none => rfl
  | some picked => rfl

/-- What holds of an empty store and is kept by every request that is served holds after every
run: operations that fail add to the transcript only. -/
theorem after_induction {motive : List Exchange → Store → Prop} (hempty : motive [] .empty)
    (hserved : ∀ transcript store now operation outcome, store.WellFormed →
      motive transcript store → (operation.request.effect now store).1 = .ok outcome →
        motive (transcript ++ [⟨now, operation, .ok outcome⟩])
          (store.writeAll (operation.request.effect now store).2))
    (hfailed : ∀ transcript store now operation e, motive transcript store →
      motive (transcript ++ [⟨now, operation, .error e⟩]) store)
    (operations : List (Timestamp × Operation)) :
    motive (empty.transcript operations) (empty.after operations).store := by
  induction operations using List.reverseRecOn with
  | nil => exact hempty
  | append_singleton operations step ih =>
    obtain ⟨now, operation⟩ := step
    have hstore : (empty.after operations).store.WellFormed := wellFormed_after operations
    rw [transcript_concat, after_concat, store_serve hstore, answer_serve hstore]
    cases hanswer : (operation.request.effect now (empty.after operations).store).1 with
    | ok outcome => exact hserved _ _ _ _ _ hstore ih hanswer
    | error e =>
      rw [writes_of_error hanswer]
      exact hfailed _ _ _ _ _ ih

end RegistryBench.ControlPlane
