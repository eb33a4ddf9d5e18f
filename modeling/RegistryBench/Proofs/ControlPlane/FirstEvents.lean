import Mathlib.Logic.Basic
import Mathlib.Tactic.ByContra
import RegistryBench.ControlPlane.Service

/-!
# The event that a new tag begins with

A request for a new tag may embed an image, and it may name a source that the tag comes from: an
image as seen through a stream, or one in some registry. `BeginsWith` reads off the request what the
first event of the tag says, and `beginsWith_tagEvent` that the control plane records such an event.
-/

namespace RegistryBench

namespace Name

/-- The id behind the first `@` of a name, if the name of a stream stands in front; else nothing. -/
def idPart (name : String) : String :=
  ((splitImage? name).map (·.2)).getD ""

/-- A name has an id, maybe an empty one, when the name of a stream stands in front of an `@`. -/
theorem idPart_cases (name : String) :
    (∃ stream id, name = joinImage stream id ∧ stream ≠ "" ∧ '@' ∉ stream.toList ∧
        idPart name = id) ∨
      (∀ stream id, name = joinImage stream id → '@' ∉ stream.toList → stream = "") ∧
        idPart name = "" := by
  rw [idPart]
  cases hsplit : splitImage? name with
  | some halves =>
    obtain ⟨stream, id⟩ := halves
    obtain ⟨hname, hstream, hat, -⟩ := splitImage?_eq_some_iff.1 hsplit
    exact Or.inl ⟨stream, id, hname, hstream, hat, rfl⟩
  | none =>
    -- the name of a stream may stand in front of an `@` with nothing behind it
    by_cases hjoined : ∃ stream, name = joinImage stream "" ∧ stream ≠ "" ∧ '@' ∉ stream.toList
    · obtain ⟨stream, hname, hstream, hat⟩ := hjoined
      exact Or.inl ⟨stream, "", hname, hstream, hat, rfl⟩
    · refine Or.inr ⟨fun stream id hname hat => ?_, rfl⟩
      by_contra hstream
      by_cases hid : id = ""
      · exact hjoined ⟨stream, hid ▸ hname, hstream, hat⟩
      · have hsome := splitImage?_eq_some_iff.2 ⟨hname, hstream, hat, hid⟩
        exact Option.some_ne_none _ (hsome.symm.trans hsplit)

/-- The id behind the first `@` is the one that a name joins with that of a stream. -/
theorem idPart_joinImage {stream id : String} (hstream : stream ≠ "") (hat : '@' ∉ stream.toList) :
    idPart (joinImage stream id) = id := by
  have hcut {before after : String} (hat : '@' ∉ before.toList) :
      Text.cut? '@' (joinImage before after) = some (before, after) :=
    Text.cut?_eq_some_iff.2 ⟨by simp [joinImage], hat⟩
  obtain ⟨before, after, hname, -, hbefore, hid⟩ | ⟨hnone, -⟩ := idPart_cases (joinImage stream id)
  · -- no `@` stands before the first one, so a name is cut in one way
    have hhalves := (hcut hat).symm.trans (hname ▸ hcut hbefore)
    obtain ⟨-, rfl⟩ := Prod.mk.inj (Option.some.inj hhalves)
    exact hid
  · exact absurd (hnone stream id rfl hat) hstream

end Name

namespace ControlPlane

/-- The event that a new tag begins with: its embedded image if it has one, else the id behind the
first `@` of the stream image that it comes from, else the pull spec of the docker image that it
comes from, else nothing. -/
inductive BeginsWith (now : Timestamp) (request : ImageStreamTag) : TagEvent → Prop
  /-- The request embeds an image that has a name. -/
  | embedded (himage : request.image.name ≠ "") :
      BeginsWith now request (.now now request.image.reference request.image.name)
  /-- The tag comes from an image as seen through a stream. The name of that stream is not empty. -/
  | streamImage {source : ObjectReference} {stream id : String} (hnone : request.image.name = "")
      (hsource : request.tag.bind TagReference.source = some source)
      (hkind : source.kind = ObjectReference.streamImageKind)
      (hname : source.name = Name.joinImage stream id) (hstream : stream ≠ "")
      (hat : '@' ∉ stream.toList) :
      BeginsWith now request (.now now "" id)
  /-- The tag comes from an image in some registry. -/
  | dockerImage {source : ObjectReference} (hnone : request.image.name = "")
      (hsource : request.tag.bind TagReference.source = some source)
      (hkind : source.kind = ObjectReference.dockerImageKind) :
      BeginsWith now request (.now now source.name "")
  /-- The tag comes from nothing that names an image. -/
  | nothing (hnone : request.image.name = "")
      (hother : ∀ source, request.tag.bind TagReference.source = some source →
        source.kind ≠ ObjectReference.dockerImageKind ∧
          (source.kind = ObjectReference.streamImageKind → ∀ stream id,
            source.name = Name.joinImage stream id → '@' ∉ stream.toList → stream = "")) :
      BeginsWith now request (.now now "" "")

/-- A new tag begins with the event that its request asks for. -/
theorem beginsWith_tagEvent (now : Timestamp) (request : ImageStreamTag) :
    BeginsWith now request (tagEvent now request) := by
  rw [tagEvent]
  split
  next himage => exact .embedded himage
  next himage =>
    have hnone : request.image.name = "" := not_not.1 himage
    split
    next hsource => exact .nothing hnone fun source hsome => by rw [hsource] at hsome; contradiction
    next source hsource =>
      -- the kind of the source decides how its name is read
      split
      next hkind =>
        show BeginsWith now request (.now now "" (Name.idPart source.name))
        obtain ⟨stream, id, hname, hstream, hat, hid⟩ | ⟨hnoStream, hid⟩ :=
          Name.idPart_cases source.name
        · rw [hid]
          exact .streamImage hnone hsource hkind hname hstream hat
        · rw [hid]
          refine .nothing hnone fun other hother => ?_
          obtain rfl := Option.some.inj (hsource.symm.trans hother)
          exact ⟨by rw [hkind]; decide, fun _ => hnoStream⟩
      next hkind =>
        split
        next hdocker => exact .dockerImage hnone hsource hdocker
        next hdocker =>
          refine .nothing hnone fun other hother => ?_
          obtain rfl := Option.some.inj (hsource.symm.trans hother)
          exact ⟨hdocker, fun hstreamImage => absurd hstreamImage hkind⟩

namespace BeginsWith

variable {now : Timestamp} {request : ImageStreamTag} {event : TagEvent}

/-- What a new tag begins with is the event that is recorded. -/
theorem eq_tagEvent (h : BeginsWith now request event) : event = tagEvent now request := by
  unfold tagEvent
  cases h with
  | embedded himage => rw [if_pos himage]
  | @streamImage source stream id hnone hsource hkind hname hstream hat =>
    have hid : Name.idPart source.name = id := hname ▸ Name.idPart_joinImage hstream hat
    simp only [hnone, hsource, hkind, ne_eq, not_true_eq_false, if_false, if_true]
    show _ = TagEvent.now now "" (Name.idPart source.name)
    rw [hid]
  | @dockerImage source hnone hsource hkind =>
    have hother : ObjectReference.dockerImageKind ≠ ObjectReference.streamImageKind := by decide
    simp only [hnone, hsource, hkind, hother, ne_eq, not_true_eq_false, if_false, if_true]
  | nothing hnone hother =>
    simp only [hnone, ne_eq, not_true_eq_false, if_false]
    split
    next => rfl
    next source hsource =>
      obtain ⟨hdocker, hnoStream⟩ := hother source hsource
      split
      next hkind =>
        -- the source is a stream image without the name of a stream, so there is no id either
        show _ = TagEvent.now now "" (Name.idPart source.name)
        obtain ⟨stream, id, hname, hstream, hat, -⟩ | ⟨-, hid⟩ := Name.idPart_cases source.name
        · exact absurd (hnoStream hkind stream id hname hat) hstream
        · rw [hid]
      next => rfl

/-- A new tag begins with no other event. -/
theorem unique (h : BeginsWith now request event) {other : TagEvent}
    (hother : BeginsWith now request other) : event = other :=
  h.eq_tagEvent.trans hother.eq_tagEvent.symm

end BeginsWith

end ControlPlane

end RegistryBench
