import Mathlib.Data.List.Forall2
import Mathlib.Data.List.Sort
import RegistryBench.Proofs.Storage.Sight
import RegistryBench.Proofs.Storage.Tree

/-!
# Waiters do not interfere

Waiting never gets in the way of storage: what storage operations answer is what the backend
replies to them alone (`answers_after`). Nor do waiters get in each other's way. When all steps of
one waiter are taken out of a run, the others see what they saw, so they are answered the same
(`run_without_waiter`); that waiters share signals is not to be noticed.
-/

namespace RegistryBench.Storage.WaitStore

open Std (ExtTreeMap ExtTreeSet)

variable {σ : Type}

/-! ### Storage operations -/

/-- The request that a step makes to the backend. -/
def Step.request? : Step → Option Request
  | .put path content => some (.put path content)
  | .get path => some (.get path)
  | .stat path => some (.stat path)
  | .list path => some (.list path)
  | .delete path => some (.delete path)
  | .start .. | .poll _ | .drop _ | .cancel _ | .pendingPaths => none

/-- What a step answers with a reply of the backend. -/
def Answer.ofReply : Reply → Answer
  | .changed result => .changed result
  | .content result => .content result
  | .info result => .info result
  | .children result => .children result

/-- Polling does not touch the backend. -/
theorem inner_poll (store : WaitStore σ) (writeFirst : Nat → Bool) (id : String) :
    (store.poll writeFirst id).2.inner = store.inner := by
  obtain hsame | ⟨polled, -, hstays | hgoes⟩ := store.poll_cases writeFirst id
  · rw [hsame]
  · rw [hstays]
    rfl
  · obtain ⟨demands, hframe⟩ := (store.goOn writeFirst id polled).dismiss_frame id
    rw [hgoes, hframe]
    rfl

/-- Starting a waiter does not touch the backend. -/
theorem inner_start (backend : Backend σ) (writeFirst : Nat → Bool) (store : WaitStore σ)
    (id token : String) (paths : List String) :
    (store.start backend writeFirst id token paths).2.inner = store.inner := by
  obtain ⟨demands, fresh, log, hframe⟩ := register_dismiss_frame backend store id paths
  obtain herror | ⟨pending, -, hpoll⟩ := start_cases backend writeFirst store id token paths
  · rw [herror, hframe]
  · rw [hpoll, inner_poll, hframe]
    rfl

/-- A step that makes a request answers what the backend replies. -/
theorem answer_of_request {step : Step} {request : Request} (h : step.request? = some request)
    (backend : Backend σ) (writeFirst : Nat → Bool) (store : WaitStore σ) :
    (store.step backend writeFirst step).1 = .ofReply (backend.perform store.inner request).1 := by
  cases step with
  | put path content =>
    obtain rfl := Option.some.inj h
    have hanswer := answer_put backend store path content
    refine (congrArg Answer.changed hanswer).trans ?_
    rw [Backend.perform]
    cases backend.put store.inner path content with
    | ok inner => rfl
    | error fault => rfl
  | get path => exact Option.some.inj h ▸ rfl
  | stat path => exact Option.some.inj h ▸ rfl
  | list path => exact Option.some.inj h ▸ rfl
  | delete path =>
    obtain rfl := Option.some.inj h
    simp only [WaitStore.step, delete, Backend.perform]
    cases backend.delete store.inner path with
    | ok inner => rfl
    | error fault => rfl
  | _ => contradiction

/-- A step leaves the backend as its request does, or as it is when it makes none. -/
theorem inner_step (backend : Backend σ) (writeFirst : Nat → Bool) (store : WaitStore σ)
    (step : Step) :
    (store.step backend writeFirst step).2.inner =
      backend.after store.inner step.request?.toList := by
  cases step with
  | start id token paths => exact inner_start backend writeFirst store id token paths
  | poll id => exact inner_poll store writeFirst id
  | drop id =>
    obtain ⟨demands, hframe⟩ := store.dismiss_frame id
    show (store.dismiss id).inner = store.inner
    rw [hframe]
  | put path content =>
    show (store.put backend path content).2.inner =
      (Backend.change store.inner (backend.put store.inner path content)).2
    -- the write is refused, nobody waits for it, or a signal is fired; the backend sees the same
    obtain ⟨fault, hinner, hput⟩ | ⟨inner, log, hinner, ⟨-, hput⟩ | ⟨signal, -, hput⟩⟩ :=
      put_cases backend store path content
    · rw [hput, hinner]
      rfl
    · rw [hput, hinner]
      rfl
    · rw [hput, hinner]
      rfl
  | delete path =>
    show (store.delete backend path).2.inner =
      (Backend.change store.inner (backend.delete store.inner path)).2
    rw [delete]
    cases backend.delete store.inner path with
    | ok inner => rfl
    | error fault => rfl
  | _ => rfl

/-- The answers of the steps that make requests, oldest first. -/
def storageAnswers (transcript : List (Step × Answer)) : List Answer :=
  (transcript.filter fun entry => entry.1.request?.isSome).map Prod.snd

/-- Storage operations are answered as by the backend alone, which they leave in the same state. -/
theorem answers_after (backend : Backend σ) (store : WaitStore σ) (moves : List Move) :
    storageAnswers (store.transcript backend moves) =
        (backend.replies store.inner (moves.filterMap (·.step.request?))).map Answer.ofReply ∧
      (store.after backend moves).inner =
        backend.after store.inner (moves.filterMap (·.step.request?)) := by
  induction moves generalizing store with
  | nil => exact ⟨rfl, rfl⟩
  | cons m moves ih =>
    have hinner := inner_step backend m.writeFirst store m.step
    obtain ⟨ihanswers, ihinner⟩ := ih (store.move backend m).2
    rw [storageAnswers] at ihanswers ⊢
    -- a step without a request leaves the backend as it is, and its answer is not compared
    cases hrequest : m.step.request? with
    | none =>
      have hsame : (store.move backend m).2.inner = store.inner := by
        rw [hrequest] at hinner
        exact hinner
      rw [hsame] at ihanswers ihinner
      simp only [transcript, List.filter_cons, hrequest, Option.isSome_none, Bool.false_eq_true,
        if_false, after_cons, List.filterMap_cons_none]
      exact ⟨ihanswers, ihinner⟩
    | some request =>
      have hnext : (store.move backend m).2.inner = (backend.perform store.inner request).2 := by
        rw [hrequest] at hinner
        exact hinner
      have hreply : (store.move backend m).1 = .ofReply (backend.perform store.inner request).1 :=
        answer_of_request hrequest backend m.writeFirst store
      have hrequests : (m :: moves).filterMap (·.step.request?) =
          request :: moves.filterMap (·.step.request?) := List.filterMap_cons_some hrequest
      rw [hnext] at ihanswers ihinner
      rw [hrequests]
      simp only [transcript, List.filter_cons, hrequest, Option.isSome_some, if_true, after_cons,
        List.map_cons, hreply, ihanswers, ihinner, Backend.replies, Backend.after_cons, and_self]

/-! ### Runs without a waiter -/

/-- A step is that of a waiter with a token of its own: it is about the waiter, or cancels the
token. -/
def Step.IsOf (id token : String) (step : Step) : Prop :=
  step.waiter? = some id ∨ step = .cancel token

/-- Whether a step is that of a waiter is decidable. -/
instance (id token : String) (step : Step) : Decidable (step.IsOf id token) :=
  inferInstanceAs (Decidable (_ ∨ _))

/-- Another waiter is not started with the token. -/
def Step.Spares (id token : String) (step : Step) : Prop :=
  ∀ other used asked, step = .start other used asked → other ≠ id → used ≠ token

/-- The paths that a waiter asks for in a run. -/
def requestedPaths (id : String) (moves : List Move) : List String :=
  moves.flatMap fun m =>
    match m.step with
    | .start other _ asked => if other = id then asked else []
    | _ => []

/-- Paths that are asked for by the first move of a run or by the rest are asked for in the run. -/
theorem asked_of_cons {id : String} {m : Move} {moves : List Move} {requested : List String}
    (h : requestedPaths id (m :: moves) ⊆ requested) :
    (∀ token asked, m.step = .start id token asked → asked ⊆ requested) ∧
      requestedPaths id moves ⊆ requested := by
  rw [requestedPaths, List.flatMap_cons, List.append_subset] at h
  refine ⟨fun token asked hstart => ?_, h.2⟩
  have hnow := h.1
  simp only [hstart, if_pos] at hnow
  exact hnow

/-- What a step answers in a run, and what it answers when a waiter is not there: the same, except
that pending paths may lack some that only the waiter has requested. -/
inductive Agrees (requested : List String) : Step × Answer → Step × Answer → Prop
  /-- The answers are the same. -/
  | same (entry : Step × Answer) : Agrees requested entry entry
  /-- Some requested paths are no longer pending. -/
  | pending {paths left : List String} (hleft : left.Sublist paths)
      (hmissing : ∀ path ∈ paths, path ∈ left ∨ path ∈ requested) :
      Agrees requested (.pendingPaths, .pending paths) (.pendingPaths, .pending left)

/-- In two stores, one of which has lost a waiter with a token of its own, the backends and the
sights of the other waiters are the same. -/
structure Mirrors (id token : String) (requested : List String) (store kept : WaitStore σ) :
    Prop where
  /-- Registrations are linked. -/
  connected : store.Connected ∧ kept.Connected
  /-- Signals are kept apart. -/
  orderly : store.Orderly ∧ kept.Orderly
  /-- The backends are in the same state. -/
  inner_eq : kept.inner = store.inner
  /-- The same tokens are cancelled, but for the token of the waiter. -/
  isCancelled_eq : ∀ other, other ≠ token → kept.isCancelled other = store.isCancelled other
  /-- The other waiters see the same. -/
  sight?_eq : ∀ other, other ≠ id → kept.sight? other = store.sight? other
  /-- The waiter is not there. -/
  absent : kept.sight? id = none
  /-- The other waiters have other tokens. -/
  token_ne : ∀ other sight, other ≠ id → store.sight? other = some sight → sight.token ≠ token
  /-- The waiter waits for paths it has requested. -/
  requested : ∀ sight, store.sight? id = some sight → sight.paths ⊆ requested

theorem mirrors_init (id token : String) (requested : List String) (inner : σ) :
    Mirrors id token requested (init inner) (init inner) where
  connected := ⟨connected_init inner, connected_init inner⟩
  orderly := ⟨orderly_init inner, orderly_init inner⟩
  inner_eq := rfl
  isCancelled_eq _ _ := rfl
  sight?_eq _ _ := rfl
  absent := by simp [sight?, init]
  token_ne other sight _ hsight := by simp [sight?, init] at hsight
  requested sight hsight := by simp [sight?, init] at hsight

/-- Which tokens are cancelled after a step. -/
theorem isCancelled_step (backend : Backend σ) (writeFirst : Nat → Bool) (store : WaitStore σ)
    (step : Step) (token : String) :
    (store.step backend writeFirst step).2.isCancelled token =
      (decide (step = .cancel token) || store.isCancelled token) := by
  by_cases hcancel : ∃ other, step = .cancel other
  · obtain ⟨other, rfl⟩ := hcancel
    show decide (token ∈ store.cancelledTokens.insert other) = _
    simp [isCancelled, ExtTreeSet.mem_insert]
  · have hsame : (store.step backend writeFirst step).2.cancelledTokens =
        store.cancelledTokens :=
      cancelledTokens_step fun other heq => hcancel ⟨other, heq⟩
    have hstep : step ≠ .cancel token := fun heq => hcancel ⟨token, heq⟩
    rw [isCancelled, isCancelled, hsame, decide_eq_false hstep, Bool.false_or]

/-- A step that is not about a waiter and writes nothing leaves what the waiter sees. -/
theorem sight?_step_of_ne {store : WaitStore σ} {step : Step} {id : String}
    (hstep : step.waiter? ≠ some id) (hrequest : step.request? = none) (backend : Backend σ)
    (writeFirst : Nat → Bool) :
    (store.step backend writeFirst step).2.sight? id = store.sight? id := by
  have hwrite : ∀ path content, step ≠ .put path content := by
    rintro path content rfl
    contradiction
  exact sight?_congr (renews_of_step hwrite backend writeFirst store).fired_eq
    (getElem?_waiters_step_of_ne hstep backend writeFirst)

/-- Texts that ascend and are all among others that ascend are found there in their order. -/
theorem sublist_of_ascending {texts left : List String}
    (htexts : texts.Pairwise (compare · · = .lt)) (hleft : left.Pairwise (compare · · = .lt))
    (hsubset : left ⊆ texts) : left.Sublist texts := by
  have : Std.Irrefl fun a b : String => compare a b = .lt := ⟨fun a h => by simp at h⟩
  have : Std.Antisymm fun a b : String => compare a b = .lt :=
    ⟨fun a b h h' => absurd (Std.OrientedCmp.gt_of_lt h) (by simp [h'])⟩
  have hnodup : left.Nodup := hleft.imp fun h heq => by simp [heq] at h
  exact List.sublist_of_subperm_of_pairwise (List.subperm_of_subset hnodup hsubset) hleft htexts

namespace Mirrors

variable {id token : String} {requested : List String} {store kept : WaitStore σ} {step : Step}

/-- What is seen of tokens and paths after a step. -/
theorem sight?_step (h : Mirrors id token requested store kept) (backend : Backend σ)
    (writeFirst : Nat → Bool) (hspares : step.Spares id token)
    (hasked : ∀ used asked, step = .start id used asked → asked ⊆ requested) :
    (∀ other sight, other ≠ id →
        (store.step backend writeFirst step).2.sight? other = some sight → sight.token ≠ token) ∧
      ∀ sight, (store.step backend writeFirst step).2.sight? id = some sight →
        sight.paths ⊆ requested := by
  constructor
  · intro other sight hother hsight
    rw [WaitStore.sight?_step h.connected.1 h.orderly.1] at hsight
    obtain ⟨used, asked, hstart, rfl, -⟩ | ⟨before, hbefore, hsame, -⟩ := Sight.next_some hsight
    · exact hspares other _ asked hstart hother
    · exact hsame ▸ h.token_ne other before hother hbefore
  · intro sight hsight
    rw [WaitStore.sight?_step h.connected.1 h.orderly.1] at hsight
    obtain ⟨used, asked, hstart, -, hpaths⟩ | ⟨before, hbefore, -, hsuffix⟩ :=
      Sight.next_some hsight
    · exact List.Subset.trans hpaths (hasked used asked hstart)
    · exact List.Subset.trans hsuffix.subset (h.requested before hbefore)

/-- A step of the waiter that is not there is not missed. -/
theorem skip (h : Mirrors id token requested store kept) (backend : Backend σ)
    (writeFirst : Nat → Bool) (hstep : step.IsOf id token) (hspares : step.Spares id token)
    (hasked : ∀ used asked, step = .start id used asked → asked ⊆ requested) :
    Mirrors id token requested (store.step backend writeFirst step).2 kept := by
  -- what the waiter does is no request to the backend
  have hrequest : step.request? = none := by
    obtain hwaiter | rfl := hstep
    · cases step <;> first | rfl | contradiction
    · rfl
  obtain ⟨htoken, hpaths⟩ := h.sight?_step backend writeFirst hspares hasked
  refine ⟨⟨h.connected.1.step backend writeFirst step, h.connected.2⟩,
    ⟨h.orderly.1.step backend writeFirst step, h.orderly.2⟩, ?_, fun other hother => ?_,
    fun other hother => ?_, h.absent, htoken, hpaths⟩
  · rw [inner_step, hrequest]
    exact h.inner_eq
  · -- the only token that the step can cancel is that of the waiter
    have hcancel : step ≠ .cancel other := by
      rintro rfl
      obtain hwaiter | heq := hstep
      · contradiction
      · exact hother (Step.cancel.inj heq)
    rw [isCancelled_step, decide_eq_false hcancel, Bool.false_or]
    exact h.isCancelled_eq other hother
  · have hwaiter : step.waiter? ≠ some other := by
      obtain hwaiter | rfl := hstep
      · rw [hwaiter]
        exact fun heq => hother (Option.some.inj heq).symm
      · exact nofun
    rw [sight?_step_of_ne hwaiter hrequest]
    exact h.sight?_eq other hother

/-- Pending paths are those without the waiter and some that it has requested. -/
theorem pendingPaths (h : Mirrors id token requested store kept) :
    kept.pendingPaths.1.Sublist store.pendingPaths.1 ∧
      ∀ path ∈ store.pendingPaths.1, path ∈ kept.pendingPaths.1 ∨ path ∈ requested := by
  have hleft : kept.pendingPaths.1 ⊆ store.pendingPaths.1 := by
    intro path hpath
    obtain ⟨other, sight, hsight, hmem⟩ :=
      (mem_pendingPaths_iff h.connected.2 h.orderly.2 path).1 hpath
    -- whoever sees the path unwritten is not the waiter, which is absent there
    have hother : other ≠ id := by
      rintro rfl
      exact Option.some_ne_none _ (hsight.symm.trans h.absent)
    rw [h.sight?_eq other hother] at hsight
    exact (mem_pendingPaths_iff h.connected.1 h.orderly.1 path).2 ⟨other, sight, hsight, hmem⟩
  refine ⟨sublist_of_ascending store.pairwise_pendingPaths kept.pairwise_pendingPaths hleft,
    fun path hpath => ?_⟩
  obtain ⟨other, sight, hsight, hmem⟩ :=
    (mem_pendingPaths_iff h.connected.1 h.orderly.1 path).1 hpath
  by_cases hother : other = id
  · -- what the waiter awaits is among what it has requested
    subst hother
    exact Or.inr (h.requested sight hsight (List.mem_map_of_mem hmem))
  · rw [← h.sight?_eq other hother] at hsight
    exact Or.inl ((mem_pendingPaths_iff h.connected.2 h.orderly.2 path).2
      ⟨other, sight, hsight, hmem⟩)

/-- A step of anything else is answered the same. -/
theorem answer (h : Mirrors id token requested store kept) (backend : Backend σ)
    (writeFirst : Nat → Bool) (hstep : ¬ step.IsOf id token) (hspares : step.Spares id token) :
    Agrees requested (step, (store.step backend writeFirst step).1)
      (step, (kept.step backend writeFirst step).1) := by
  have hsame
      (heq : (kept.step backend writeFirst step).1 = (store.step backend writeFirst step).1) :
      Agrees requested (step, (store.step backend writeFirst step).1)
        (step, (kept.step backend writeFirst step).1) := heq ▸ .same _
  cases hrequest : step.request? with
  | some request =>
    -- the backends are in the same state
    refine hsame ?_
    rw [answer_of_request hrequest, answer_of_request hrequest, h.inner_eq]
  | none =>
    cases hwaiter : step.waiter? with
    | some other =>
      -- the waiter sees the same, and its token is another one
      have hother : other ≠ id := fun heq => hstep (Or.inl (heq ▸ hwaiter))
      have hcongr : Sight.answer? backend writeFirst store.inner kept.isCancelled
          (store.sight? other) step = Sight.answer? backend writeFirst store.inner
            store.isCancelled (store.sight? other) step := by
        refine Sight.answer?_congr (fun sight hsight => ?_) fun started used asked hstart => ?_
        · exact h.isCancelled_eq _ (h.token_ne other sight hother hsight)
        · obtain rfl : started = other := by
            rw [hstart] at hwaiter
            exact Option.some.inj hwaiter
          exact h.isCancelled_eq _ (hspares started used asked hstart hother)
      refine hsame (Option.some.inj ?_)
      rw [answer_step h.connected.1 h.orderly.1 backend writeFirst hwaiter,
        answer_step h.connected.2 h.orderly.2 backend writeFirst hwaiter, h.inner_eq,
        h.sight?_eq other hother, hcongr]
    | none =>
      cases step with
      | cancel other => exact hsame rfl
      | pendingPaths => exact .pending h.pendingPaths.1 h.pendingPaths.2
      | _ => contradiction

/-- A step of anything else makes no difference. -/
theorem keep (h : Mirrors id token requested store kept) (backend : Backend σ)
    (writeFirst : Nat → Bool) (hstep : ¬ step.IsOf id token) (hspares : step.Spares id token) :
    Mirrors id token requested (store.step backend writeFirst step).2
      (kept.step backend writeFirst step).2 := by
  have hstart : ∀ used asked, step ≠ .start id used asked := by
    rintro used asked rfl
    exact hstep (Or.inl rfl)
  obtain ⟨htoken, hpaths⟩ := h.sight?_step backend writeFirst hspares
    fun used asked heq => absurd heq (hstart used asked)
  refine ⟨⟨h.connected.1.step backend writeFirst step, h.connected.2.step backend writeFirst step⟩,
    ⟨h.orderly.1.step backend writeFirst step, h.orderly.2.step backend writeFirst step⟩, ?_,
    fun other hother => ?_, fun other hother => ?_, ?_, htoken, hpaths⟩
  · rw [inner_step, inner_step, h.inner_eq]
  · rw [isCancelled_step, isCancelled_step, h.isCancelled_eq other hother]
  · rw [WaitStore.sight?_step h.connected.1 h.orderly.1,
      WaitStore.sight?_step h.connected.2 h.orderly.2, h.inner_eq, h.sight?_eq other hother]
    -- other waiters have other tokens, before the step and when it starts them
    refine Sight.next_congr (fun sight hsight => ?_) fun used asked heq => ?_
    · exact h.isCancelled_eq _ (h.token_ne other sight hother hsight)
    · exact h.isCancelled_eq _ (hspares other used asked heq hother)
  · rw [WaitStore.sight?_step h.connected.2 h.orderly.2, h.absent,
      Option.eq_none_iff_forall_ne_some]
    intro sight hsight
    -- the waiter can only be there by a step that starts it
    obtain ⟨used, asked, heq, -⟩ | ⟨before, hbefore, -⟩ := Sight.next_some hsight
    · exact hstart used asked heq
    · exact Option.some_ne_none before hbefore.symm

/-- A run makes no difference when the steps of the waiter are taken out of it. -/
theorem run (h : Mirrors id token requested store kept) (backend : Backend σ) {moves : List Move}
    (hspares : ∀ m ∈ moves, m.step.Spares id token)
    (hasked : requestedPaths id moves ⊆ requested) :
    let left := moves.filter fun m => ¬ m.step.IsOf id token
    List.Forall₂ (Agrees requested)
        ((store.transcript backend moves).filter fun entry => ¬ entry.1.IsOf id token)
        (kept.transcript backend left) ∧
      (kept.after backend left).inner = (store.after backend moves).inner := by
  induction moves generalizing store kept with
  | nil => exact ⟨.nil, h.inner_eq⟩
  | cons m moves ih =>
    obtain ⟨hm, hspares⟩ := List.forall_mem_cons.1 hspares
    obtain ⟨hnow, hlater⟩ := asked_of_cons hasked
    -- a step of the waiter stands on one side only
    by_cases hstep : m.step.IsOf id token
    · have hrest := ih (h.skip backend m.writeFirst hstep hm hnow) hspares hlater
      simp only [transcript, List.filter_cons, hstep, not_true_eq_false, decide_false,
        Bool.false_eq_true, if_false, after_cons]
      exact hrest
    · obtain ⟨hanswers, hinner⟩ := ih (h.keep backend m.writeFirst hstep hm) hspares hlater
      simp only [transcript, List.filter_cons, hstep, not_false_eq_true, decide_true, if_true,
        after_cons]
      exact ⟨.cons (h.answer backend m.writeFirst hstep hm) hanswers, hinner⟩

end Mirrors

/-- When the steps of a waiter with a token of its own are taken out of a run, everything else is
answered the same, except that paths which the waiter has requested may not be pending any more,
and the backend ends in the same state. Storage operations are answered as by the backend alone. -/
theorem run_without_waiter (backend : Backend σ) (inner : σ) (moves : List Move)
    (id token : String) (hown : ∀ m ∈ moves, m.step.Spares id token) :
    let store := init inner
    let left := moves.filter fun m => ¬ m.step.IsOf id token
    List.Forall₂ (Agrees (requestedPaths id moves))
        ((store.transcript backend moves).filter fun entry => ¬ entry.1.IsOf id token)
        (store.transcript backend left) ∧
      (store.after backend left).inner = (store.after backend moves).inner ∧
      storageAnswers (store.transcript backend moves) =
        (backend.replies inner (moves.filterMap (·.step.request?))).map Answer.ofReply ∧
      (store.after backend moves).inner =
        backend.after inner (moves.filterMap (·.step.request?)) := by
  intro store left
  obtain ⟨hanswers, hinner⟩ := (mirrors_init id token (requestedPaths id moves) inner).run backend
    hown (List.Subset.refl _)
  exact ⟨hanswers, hinner, answers_after backend store moves⟩

section Cancelled

/-- What goes on besides a waiter: another one waits for a file, which is written and read. -/
def besides : List Move :=
  [.start "second" "other" ["/a"], .pendingPaths, .put "/a" [1], .poll "second",
    .get "/a"].map (⟨cancelFirst, ·⟩)

/-- The waiter has asked for the file first, and is cancelled before it is written. -/
def withCancelled : List Move :=
  [.start "first" "mine" ["/a", "/b"], .start "second" "other" ["/a"], .pendingPaths,
    .cancel "mine", .poll "first", .put "/a" [1], .poll "second", .get "/a"].map (⟨cancelFirst, ·⟩)

/-- The other waiter returns, and the file is read, whether the waiter was there or not. Only the
pending paths tell, by the one that nobody else asks for. -/
theorem run_without_waiter_cancelled :
    (∀ m ∈ withCancelled, m.step.Spares "first" "mine") ∧
      List.Forall₂ (Agrees ["/a", "/b"])
        [(.start "second" "other" ["/a"], .waited none),
          (.pendingPaths, .pending ["/a", "/b"]), (.put "/a" [1], .changed (.ok ())),
          (.poll "second", .waited (some (.ok ()))), (.get "/a", .content (.ok [1]))]
        ((init Files.empty).transcript Files.backend besides) ∧
      ((init Files.empty).after Files.backend besides).inner =
        Files.backend.after Files.empty [.put "/a" [1], .get "/a"] := by
  have hown : ∀ m ∈ withCancelled, m.step.Spares "first" "mine" := by
    simp [withCancelled, Step.Spares]
  obtain ⟨hanswers, hinner, -, hbackend⟩ :=
    run_without_waiter Files.backend Files.empty withCancelled "first" "mine" hown
  have hleft : (withCancelled.filter fun m => ¬ m.step.IsOf "first" "mine") = besides := by
    rfl
  have hrequested : requestedPaths "first" withCancelled = ["/a", "/b"] := by
    rfl
  have hbefore : (((init Files.empty).transcript Files.backend withCancelled).filter
      fun entry => ¬ entry.1.IsOf "first" "mine") =
        [(.start "second" "other" ["/a"], .waited none),
          (.pendingPaths, .pending ["/a", "/b"]), (.put "/a" [1], .changed (.ok ())),
          (.poll "second", .waited (some (.ok ()))), (.get "/a", .content (.ok [1]))] := by
    decide +kernel
  rw [hleft, hrequested, hbefore] at hanswers
  rw [hleft] at hinner
  exact ⟨hown, hanswers, hinner.trans hbackend⟩

end Cancelled

end RegistryBench.Storage.WaitStore
