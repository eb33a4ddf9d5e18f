import RegistryBench.Proofs.ControlPlane.Fulfilment
import Mathlib.Data.List.Induction

/-!
# Histories of writes

A run of operations on an empty control plane is known by the writes that it makes. The store at
the end is what those writes make of an empty store (`store_after`), so a property of every
reachable store is proved by induction on the writes, and a property of runs by induction on the
operations.

A version of an image that is stored at some write is stored when some operation is done, be the
write in the middle of an operation or not (`exists_after_of_suffix`).
-/

namespace RegistryBench

namespace Store

/-- What some writes make of an empty store. The newest write comes first. -/
def replay (writes : List Write) : Store :=
  empty.writeAll writes

@[simp]
theorem replay_image (image : Image) (past : List Write) :
    replay (.image image :: past) = (replay past).putImage image := rfl

@[simp]
theorem replay_stream (stream : ImageStream) (past : List Write) :
    replay (.stream stream :: past) = (replay past).putStream stream := rfl

/-- Newer writes are made behind older ones. -/
theorem replay_append (newer past : List Write) :
    replay (newer ++ past) = (replay past).writeAll newer :=
  writeAll_append _ _ _

/-- Writes store images under their names. -/
theorem name_of_image?_replay {past : List Write} {name : String} {image : Image}
    (h : (replay past).image? name = some image) : image.name = name := by
  induction past with
  | nil => exact wellFormed_empty.image_name h
  | cons w past ih =>
    cases w with
    | image written =>
      rw [replay_image, image?_putImage] at h
      split at h
      next hname => exact Option.some.inj h ▸ hname
      next => exact ih h
    | stream written => exact ih h

end Store

namespace ControlPlane

/-- The writes of some operations, after those of a past. -/
def record (past : List Write) : List (Timestamp × Operation) → List Write
  | [] => past
  | (now, operation) :: operations =>
    record ((operation.request.effect now (.replay past)).2 ++ past) operations

/-- The writes of some operations on an empty control plane. -/
def history (operations : List (Timestamp × Operation)) : List Write :=
  record [] operations

/-- The writes of a run are recorded behind those of the run before it. -/
theorem record_append (past : List Write) (operations later : List (Timestamp × Operation)) :
    record past (operations ++ later) = record (record past operations) later := by
  induction operations generalizing past with
  | nil => rfl
  | cons step operations ih => exact ih _

/-- The last operation of a run adds its writes. -/
theorem history_concat (operations : List (Timestamp × Operation)) (now : Timestamp)
    (operation : Operation) :
    history (operations ++ [(now, operation)]) =
      (operation.request.effect now (.replay (history operations))).2 ++ history operations := by
  rw [history, record_append]
  rfl

/-- The last operation of a run meets what the others have left. -/
theorem after_concat (c : ControlPlane) (operations : List (Timestamp × Operation))
    (now : Timestamp) (operation : Operation) :
    c.after (operations ++ [(now, operation)]) =
      ((c.after operations).serve (perform now operation)).2 := by
  rw [after, List.foldl_append]
  rfl

/-- An operation on a well-formed store adds its writes. -/
theorem store_serve {c : ControlPlane} (hc : c.store.WellFormed) (now : Timestamp)
    (operation : Operation) :
    (c.serve (perform now operation)).2.store =
      c.store.writeAll (operation.request.effect now c.store).2 :=
  congrArg Prod.snd (fulfils_perform now operation c hc)

/-- What an operation on a well-formed store answers. -/
theorem answer_serve {c : ControlPlane} (hc : c.store.WellFormed) (now : Timestamp)
    (operation : Operation) :
    (c.serve (perform now operation)).1 = (operation.request.effect now c.store).1 :=
  congrArg Prod.fst (fulfils_perform now operation c hc)

/-- An operation on a well-formed store answers and writes what its effect is. -/
theorem serve_of_effect {c : ControlPlane} (hc : c.store.WellFormed) (now : Timestamp)
    (operation : Operation) {answer : Except Error Outcome} {writes : List Write}
    (h : operation.request.effect now c.store = (answer, writes)) :
    let served := c.serve (perform now operation)
    served.1 = answer ∧ served.2.store = c.store.writeAll writes := by
  have hanswer := answer_serve hc now operation
  have hstore := store_serve hc now operation
  rw [h] at hanswer hstore
  exact ⟨hanswer, hstore⟩

/-- Turning a result into an outcome succeeds as the result does. -/
theorem map_eq_ok_iff {α β : Type} {f : α → β} {result : Except Error α} {b : β} :
    result.map f = .ok b ↔ ∃ a, result = .ok a ∧ f a = b := by
  cases result with
  | error e => simp [Except.map]
  | ok a => simp [Except.map]

/-- Operations reach well-formed stores only. -/
theorem wellFormed_after (operations : List (Timestamp × Operation)) :
    (empty.after operations).store.WellFormed := by
  induction operations using List.reverseRecOn with
  | nil => exact Store.wellFormed_empty
  | append_singleton operations step ih =>
    rw [after_concat, store_serve ih]
    exact wellFormed_effect ih step.1 step.2.request

/-- A reachable store is made by the writes of the run. -/
theorem store_after (operations : List (Timestamp × Operation)) :
    (empty.after operations).store = .replay (history operations) := by
  induction operations using List.reverseRecOn with
  | nil => rfl
  | append_singleton operations step ih =>
    -- the writes of the last operation come on top of those before it
    rw [after_concat, store_serve (wellFormed_after operations), ih, history_concat,
      Store.replay_append]

/-! ### Writes within an operation -/

/-- However much of a request is done, the images are those before or those after it. -/
theorem images_within (now : Timestamp) (store : Store) (request : Request) {done : List Write}
    (h : done <:+ (request.effect now store).2) :
    (store.writeAll done).images = store.images ∨
      (store.writeAll done).images = (store.writeAll (request.effect now store).2).images := by
  obtain ⟨answer, rfl⟩ | ⟨e, heffect, -⟩ | ⟨outcome, image, heffect, -⟩ |
    ⟨outcome, stream, kept, heffect, hkept, -⟩ := effect_cases now store request
  · rw [List.suffix_nil.1 h]
    exact Or.inl rfl
  · rw [heffect] at h
    rw [List.suffix_nil.1 h]
    exact Or.inl rfl
  · rw [heffect] at h ⊢
    obtain rfl | h := List.suffix_cons_iff.1 h
    · exact Or.inr rfl
    · rw [List.suffix_nil.1 h]
      exact Or.inl rfl
  · -- writing the stream, which is done last, leaves the images alone
    rw [heffect] at h ⊢
    obtain rfl | h := List.suffix_cons_iff.1 h
    · exact Or.inr rfl
    · obtain rfl | ⟨image, -, rfl⟩ := hkept
      · rw [List.suffix_nil.1 h]
        exact Or.inl rfl
      · obtain rfl | h := List.suffix_cons_iff.1 h
        · exact Or.inr rfl
        · rw [List.suffix_nil.1 h]
          exact Or.inl rfl

/-- An image that is stored at some write of a run is stored after some operation of the run. -/
theorem exists_after_of_suffix {operations : List (Timestamp × Operation)} {past : List Write}
    (hpast : past <:+ history operations) {name : String} {image : Image}
    (himage : (Store.replay past).image? name = some image) :
    ∃ earlier, earlier <+: operations ∧
      (empty.after earlier).store.image? name = some image := by
  induction operations using List.reverseRecOn generalizing past with
  | nil =>
    rw [List.suffix_nil.1 hpast] at himage
    exact ⟨[], List.prefix_rfl, himage⟩
  | append_singleton operations step ih =>
    obtain ⟨now, operation⟩ := step
    rw [history_concat] at hpast
    -- either the write was done before the last operation, or within it
    rcases List.suffix_or_suffix_of_suffix hpast (List.suffix_append _ _) with h | ⟨done, rfl⟩
    · obtain ⟨earlier, hearlier, hstored⟩ := ih h himage
      exact ⟨earlier, hearlier.trans (List.prefix_append _ _), hstored⟩
    · obtain ⟨left, hleft⟩ := hpast
      rw [← List.append_assoc, List.append_cancel_right_eq] at hleft
      rw [Store.replay_append] at himage
      -- within the operation the images are those before it or those after it
      rcases images_within now _ operation.request ⟨left, hleft⟩ with himages | himages
      · refine ⟨operations, List.prefix_append _ _, ?_⟩
        rw [store_after, ← himage, Store.image?, Store.image?, himages]
      · refine ⟨_, List.prefix_rfl, ?_⟩
        rw [store_after, history_concat, Store.replay_append, ← himage, Store.image?, Store.image?,
          himages]

end ControlPlane

end RegistryBench
