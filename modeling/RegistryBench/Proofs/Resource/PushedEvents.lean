import Mathlib.Data.List.Nodup
import RegistryBench.Proofs.Resource.TagHistories

/-!
# Pushing events groups them by tag

Events that are pushed onto a stream one after the other are grouped: the histories come in the
order in which their tags were first seen, those that the stream had already in front, and each
history holds its events in the order in which they were pushed. One push either adds an event to a
history or a new history at the end, and keeps their names distinct (`statusNames_pushTagEvent`,
`nodup_statusNames_pushTagEvent`). From this the histories after many pushes are known as a whole.
Main result: `pushAll_groups`.
-/

namespace RegistryBench.ImageStream

/-! ### The names of histories -/

/-- The tags of the histories of a stream, in their order. -/
def statusNames (stream : ImageStream) : List String :=
  stream.status.tags.map TagHistory.tag

theorem tag_mem_statusNames {stream : ImageStream} {history : TagHistory}
    (h : history ∈ stream.status.tags) : history.tag ∈ stream.statusNames :=
  List.mem_map_of_mem h

/-- The history that is found for a tag is one of that tag. -/
theorem mem_of_statusTag? {stream : ImageStream} {tag : String} {history : TagHistory}
    (h : stream.statusTag? tag = some history) :
    history ∈ stream.status.tags ∧ history.tag = tag := by
  rw [statusTag?] at h
  have htag := List.find?_some h
  exact ⟨List.mem_of_find?_eq_some h, beq_iff_eq.1 htag⟩

/-- A stream has a history of just those tags that are among the names of its histories. -/
theorem statusTag?_eq (stream : ImageStream) (tag : String) :
    stream.statusTag? tag =
      if tag ∈ stream.statusNames then some ⟨tag, stream.tagEvents tag⟩ else none := by
  rw [tagEvents]
  cases hfound : stream.statusTag? tag with
  | none =>
    -- a history of the tag would have been found
    have hnone : tag ∉ stream.statusNames := by
      intro hmem
      obtain ⟨history, hhistory, htag⟩ := List.mem_map.1 hmem
      exact List.find?_eq_none.1 hfound history hhistory (beq_iff_eq.2 htag)
    rw [if_neg hnone]
  | some history =>
    obtain ⟨hmem, rfl⟩ := mem_of_statusTag? hfound
    rw [if_pos (tag_mem_statusNames hmem)]
    rfl

/-- When no two histories have one tag, each of them holds the events of its tag. -/
theorem tagEvents_of_mem {stream : ImageStream} (h : stream.statusNames.Nodup)
    {history : TagHistory} (hmem : history ∈ stream.status.tags) :
    stream.tagEvents history.tag = history.items := by
  have hfound := stream.statusTag?_eq history.tag
  rw [if_pos (tag_mem_statusNames hmem)] at hfound
  -- the history that is found for the tag is this one
  have heq := List.inj_on_of_nodup_map h (mem_of_statusTag? hfound).1 hmem rfl
  exact congrArg TagHistory.items heq

/-- The histories of a stream in which no two have one tag. -/
theorem tags_eq_map_statusNames {stream : ImageStream} (h : stream.statusNames.Nodup) :
    stream.status.tags = stream.statusNames.map fun tag => ⟨tag, stream.tagEvents tag⟩ := by
  rw [statusNames, List.map_map]
  refine (List.map_id _).symm.trans (List.map_congr_left fun history hmem => ?_)
  rw [Function.comp_apply, tagEvents_of_mem h hmem]
  rfl

/-! ### One push -/

/-- A history is added at the end when there is none of that tag. -/
theorem Appended.map_tag {tag : String} {event : TagEvent} {before after : List TagHistory}
    (h : Appended tag event before after) :
    after.map TagHistory.tag =
      if tag ∈ before.map TagHistory.tag then before.map TagHistory.tag
      else before.map TagHistory.tag ++ [tag] := by
  cases h with
  | first hbefore => simp
  | new hnone =>
    have hmem : tag ∉ before.map TagHistory.tag := by
      rintro hmem
      obtain ⟨history, hhistory, htag⟩ := List.mem_map.1 hmem
      exact hnone history hhistory htag
    rw [if_neg hmem, List.map_append, List.map_singleton]

variable (stream : ImageStream)

theorem statusNames_pushTagEvent (tag : String) (event : TagEvent) :
    (stream.pushTagEvent tag event).statusNames =
      if tag ∈ stream.statusNames then stream.statusNames else stream.statusNames ++ [tag] :=
  (appended_pushInto tag event stream.status.tags).map_tag

theorem nodup_statusNames_pushTagEvent {stream : ImageStream} (h : stream.statusNames.Nodup)
    (tag : String) (event : TagEvent) : (stream.pushTagEvent tag event).statusNames.Nodup := by
  rw [statusNames_pushTagEvent]
  split
  next => exact h
  next hnew =>
    rw [← List.concat_eq_append]
    exact h.concat hnew

/-- The image of a pushed event is added to those that the events of a stream name. -/
theorem referencedImages_pushTagEvent (tag : String) (event : TagEvent) :
    (stream.pushTagEvent tag event).referencedImages.Perm
      (stream.referencedImages ++ [event.image].filter (· ≠ "")) := by
  have hitems := (appended_pushInto tag event stream.status.tags).perm_items
  have himages := (hitems.map TagEvent.image).filter (· ≠ "")
  rw [List.map_append, List.filter_append] at himages
  exact himages

/-! ### Many pushes -/

/-- Add events to the histories of some tags, one after the other. -/
def pushAll (pushes : List (String × TagEvent)) : ImageStream :=
  pushes.foldl (fun stream (tag, event) => stream.pushTagEvent tag event) stream

/-- The events that are pushed for a tag, in their order. -/
def pushedEvents (pushes : List (String × TagEvent)) (tag : String) : List TagEvent :=
  (pushes.filter fun push => push.1 = tag).map Prod.snd

/-- The tags that are pushed and not among some names, in the order of their first push. -/
def newNames (names : List String) (pushes : List (String × TagEvent)) : List String :=
  ((pushes.map Prod.fst).filter (· ∉ names)).eraseDups

variable (pushes : List (String × TagEvent))

theorem nodup_statusNames_pushAll {stream : ImageStream} (h : stream.statusNames.Nodup) :
    (stream.pushAll pushes).statusNames.Nodup := by
  induction pushes generalizing stream with
  | nil => exact h
  | cons push pushes ih => exact ih (nodup_statusNames_pushTagEvent h push.1 push.2)

/-- The names of old histories keep their places, and the new ones follow. -/
theorem statusNames_pushAll :
    (stream.pushAll pushes).statusNames =
      stream.statusNames ++ newNames stream.statusNames pushes := by
  induction pushes generalizing stream with
  | nil => exact (List.append_nil _).symm
  | cons push pushes ih =>
    show ((stream.pushTagEvent push.1 push.2).pushAll pushes).statusNames = _
    rw [ih, statusNames_pushTagEvent, newNames, newNames, List.map_cons, List.filter_cons]
    split
    next hold => rw [if_neg (by simpa using hold)]
    next hnew =>
      -- the name stands in front of the others, from which it is left out
      have hfilter : (pushes.map Prod.fst).filter (· ∉ stream.statusNames ++ [push.1]) =
          ((pushes.map Prod.fst).filter (· ∉ stream.statusNames)).filter (!· == push.1) := by
        rw [List.filter_filter]
        refine List.filter_congr fun tag _ => ?_
        simp [beq_eq_decide, and_comm]
      rw [if_pos (by simpa using hnew), List.eraseDups_cons, hfilter, List.append_assoc]
      rfl

/-- The events of a tag are followed by those that are pushed for it. -/
theorem tagEvents_pushAll (tag : String) :
    (stream.pushAll pushes).tagEvents tag = stream.tagEvents tag ++ pushedEvents pushes tag := by
  induction pushes generalizing stream with
  | nil => exact (List.append_nil _).symm
  | cons push pushes ih =>
    show ((stream.pushTagEvent push.1 push.2).pushAll pushes).tagEvents tag = _
    rw [ih, tagEvents_pushTagEvent, pushedEvents, pushedEvents, List.filter_cons]
    by_cases htag : push.1 = tag
    · simp [htag]
    · simp [htag]

/-- The images that the events of a stream name afterwards are those of before and of the events
that were pushed. -/
theorem referencedImages_pushAll :
    (stream.pushAll pushes).referencedImages.Perm
      (stream.referencedImages ++ (pushes.map fun push => push.2.image).filter (· ≠ "")) := by
  induction pushes generalizing stream with
  | nil => exact .of_eq (List.append_nil _).symm
  | cons push pushes ih =>
    have hpush := (stream.referencedImages_pushTagEvent push.1 push.2).append_right
      ((pushes.map fun push => push.2.image).filter (· ≠ ""))
    -- the image of the first push stands in front of those of the others
    rw [List.append_assoc, ← List.filter_append] at hpush
    exact (ih (stream.pushTagEvent push.1 push.2)).trans hpush

/-- Nothing else of a stream changes. -/
theorem pushAll_frame :
    (stream.pushAll pushes).metadata = stream.metadata ∧
      (stream.pushAll pushes).spec = stream.spec ∧
      (stream.pushAll pushes).status.repository = stream.status.repository := by
  induction pushes generalizing stream with
  | nil => exact ⟨rfl, rfl, rfl⟩
  | cons push pushes ih => exact ih (stream.pushTagEvent push.1 push.2)

/-- There is a history of the tags that had one, and of those that were pushed. -/
theorem mem_statusNames_pushAll (tag : String) :
    tag ∈ (stream.pushAll pushes).statusNames ↔
      tag ∈ stream.statusNames ∨ tag ∈ pushes.map Prod.fst := by
  rw [statusNames_pushAll, List.mem_append, newNames, List.mem_eraseDups, List.mem_filter,
    decide_eq_true_iff]
  tauto

/-! ### The groups -/

/-- Events that are pushed onto a stream without two histories of one tag are grouped. The tags of
the histories stay distinct; those of the stream keep their places, and new ones follow in the order
of their first push. The history of a tag holds the old events and then those that were pushed for
it, in their order. The images that the events name are read off the histories in their order, and
are those of before with those of the pushed events, where no image is not counted. Nothing else of
the stream changes. -/
theorem pushAll_groups (h : stream.statusNames.Nodup) :
    (stream.pushAll pushes).statusNames.Nodup ∧
      (stream.pushAll pushes).statusNames =
        stream.statusNames ++ newNames stream.statusNames pushes ∧
      (∀ tag, (stream.pushAll pushes).statusTag? tag =
        if tag ∈ stream.statusNames ∨ tag ∈ pushes.map Prod.fst then
          some ⟨tag, stream.tagEvents tag ++ pushedEvents pushes tag⟩
        else none) ∧
      (stream.pushAll pushes).status.tags =
        ((stream.pushAll pushes).statusNames.map fun tag =>
          ⟨tag, stream.tagEvents tag ++ pushedEvents pushes tag⟩) ∧
      (stream.pushAll pushes).referencedImages =
        (((stream.pushAll pushes).statusNames.flatMap fun tag =>
          stream.tagEvents tag ++ pushedEvents pushes tag).map TagEvent.image).filter (· ≠ "") ∧
      (stream.pushAll pushes).referencedImages.Perm
        (stream.referencedImages ++ (pushes.map fun push => push.2.image).filter (· ≠ "")) ∧
      (stream.pushAll pushes).metadata = stream.metadata ∧
      (stream.pushAll pushes).spec = stream.spec ∧
      (stream.pushAll pushes).status.repository = stream.status.repository := by
  have hnodup := nodup_statusNames_pushAll pushes h
  have htags : (stream.pushAll pushes).status.tags =
      (stream.pushAll pushes).statusNames.map fun tag =>
        ⟨tag, stream.tagEvents tag ++ pushedEvents pushes tag⟩ := by
    simpa only [tagEvents_pushAll] using tags_eq_map_statusNames hnodup
  -- what is found for a tag and what images there are is read off the histories
  refine ⟨hnodup, stream.statusNames_pushAll pushes, fun tag => ?_, htags, ?_,
    stream.referencedImages_pushAll pushes, stream.pushAll_frame pushes⟩
  · simp only [statusTag?_eq, mem_statusNames_pushAll, tagEvents_pushAll]
  · rw [referencedImages, htags, List.flatMap_map]

/-- An event for a tag whose history stands in front of others goes there, and new histories come
last, in the order of their first event. -/
theorem pushAll_groups_interleaved :
    let event (image : String) : TagEvent := ⟨⟨0, 0⟩, "", image, 0⟩
    let stream : ImageStream :=
      { ImageStream.empty "test" "app" with
        status.tags := [⟨"latest", [event "sha256:1"]⟩, ⟨"v1", []⟩] }
    let pushes := [("v3", event "sha256:3"), ("latest", event ""), ("v2", event "sha256:2"),
      ("v3", event "sha256:1"), ("latest", event "sha256:3")]
    stream.statusNames.Nodup ∧
      (stream.pushAll pushes).statusNames = ["latest", "v1", "v3", "v2"] ∧
      (stream.pushAll pushes).statusTag? "latest" =
        some ⟨"latest", [event "sha256:1", event "", event "sha256:3"]⟩ ∧
      (stream.pushAll pushes).referencedImages =
        ["sha256:1", "sha256:3", "sha256:3", "sha256:1", "sha256:2"] := by
  intro event stream pushes
  have hnodup : stream.statusNames.Nodup := by decide
  obtain ⟨-, hnames, htag, -, himages, -⟩ := pushAll_groups stream pushes hnodup
  have hnames : (stream.pushAll pushes).statusNames = ["latest", "v1", "v3", "v2"] :=
    hnames.trans (by decide +kernel)
  rw [hnames] at himages
  exact ⟨hnodup, hnames, (htag "latest").trans (by decide +kernel),
    himages.trans (by decide +kernel)⟩

end RegistryBench.ImageStream
