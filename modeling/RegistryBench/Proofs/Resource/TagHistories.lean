import RegistryBench.Resource.ImageStream

/-!
# Adding events to tags

An event for a tag goes to the end of the first history of the tag or, when the tag has none, into
a new history behind the others (`appended_pushInto`). The other events stay as they are, so the
images that tag events name afterwards are those named before and that of the event
(`Appended.mem_referencedImages_iff`).
-/

namespace RegistryBench.ImageStream

/-- Some histories after an event was added for a tag. -/
inductive Appended (tag : String) (event : TagEvent) : List TagHistory → List TagHistory → Prop
  /-- The event is the last of the first history of the tag. -/
  | first {before after : List TagHistory} {items : List TagEvent}
      (hbefore : ∀ history ∈ before, history.tag ≠ tag) :
      Appended tag event (before ++ ⟨tag, items⟩ :: after)
        (before ++ ⟨tag, items ++ [event]⟩ :: after)
  /-- The tag has no history yet, and a new one with the event comes last. -/
  | new {histories : List TagHistory} (hnone : ∀ history ∈ histories, history.tag ≠ tag) :
      Appended tag event histories (histories ++ [⟨tag, [event]⟩])

variable {tag : String} {event : TagEvent}

/-- A history of another tag in front of the others stays there. -/
theorem Appended.cons {before after : List TagHistory} (h : Appended tag event before after)
    {history : TagHistory} (hother : history.tag ≠ tag) :
    Appended tag event (history :: before) (history :: after) := by
  cases h with
  | @first front back items hfront =>
    exact @Appended.first tag event (history :: front) back items
      (List.forall_mem_cons.2 ⟨hother, hfront⟩)
  | new hnone => exact .new (List.forall_mem_cons.2 ⟨hother, hnone⟩)

theorem appended_pushInto (tag : String) (event : TagEvent) (histories : List TagHistory) :
    Appended tag event histories (pushInto tag event histories) := by
  induction histories with
  | nil => exact .new (List.forall_mem_nil _)
  | cons history histories ih =>
    rw [pushInto]
    split
    next htag =>
      subst htag
      exact @Appended.first _ event [] histories history.items (List.forall_mem_nil _)
    next hother => exact ih.cons hother

/-- No event is lost, and none but the new one is added. -/
theorem Appended.perm_items {before after : List TagHistory} (h : Appended tag event before after) :
    (after.flatMap TagHistory.items).Perm (before.flatMap TagHistory.items ++ [event]) := by
  cases h with
  | @first front back items hbefore =>
    simp only [List.flatMap_append, List.flatMap_cons, List.append_assoc]
    -- the event moves behind those of the histories that follow
    refine List.Perm.append_left _ (List.Perm.append_left items ?_)
    exact List.perm_append_comm
  | new hnone => simp

/-- An image is named by a tag event after an event was added when it was before, or when the event
names it. -/
theorem Appended.mem_referencedImages_iff {stream written : ImageStream}
    (h : Appended tag event stream.status.tags written.status.tags) (image : String) :
    image ∈ written.referencedImages ↔
      image ∈ stream.referencedImages ∨ image = event.image ∧ image ≠ "" := by
  simp only [referencedImages, List.mem_filter, List.mem_map, h.perm_items.mem_iff,
    List.mem_append, List.mem_singleton, decide_eq_true_iff, or_and_right, exists_or,
    exists_eq_left, eq_comm (a := image) (b := event.image)]

end RegistryBench.ImageStream
