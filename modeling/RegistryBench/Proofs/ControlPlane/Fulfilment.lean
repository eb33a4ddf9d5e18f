import RegistryBench.Proofs.ControlPlane.Effect

/-!
# Services fulfil requests

A service works step by step and reports on the way. On a well-formed store it comes to what its
request says: `fulfils_perform`. Only here are the steps of services looked at.

A mapping and a new tag look a stream up, change it and write it back. That the last step does not
fail (`serve_updateStream_of_stored`, `serve_persist`) rests on the stream being stored under its
own key, with the time of its creation.
-/

namespace RegistryBench

namespace ControlPlane

variable {α : Type}

/-- What a service answers and the store that it leaves behind, whatever it reports. -/
def settle (c : ControlPlane) (service : Service α) : Except Error α × Store :=
  ((c.serve service).1, (c.serve service).2.store)

/-- Two services that go on in the same way may be chosen between first. -/
theorem serve_ite_bind {β : Type} (c : ControlPlane) (p : Prop) [Decidable p]
    (service service' : Service α) (next : α → Service β) :
    c.serve (if p then service >>= next else service' >>= next) =
      c.serve ((if p then service else service') >>= next) := by
  split <;> rfl

/-- Looking a stream up changes nothing. -/
theorem serve_getStream (c : ControlPlane) (key : StreamKey) :
    c.serve (getStream key) = (c.store.getStream key, c) :=
  serve_lookingUp c _

/-- A new image is refused when its manifests cannot be filled in or its name is taken. -/
theorem serve_createImage (c : ControlPlane) (image : Image) :
    c.serve (createImage image) =
      match image.expand with
      | .error fault => (.error (.badRequest fault), c)
      | .ok image =>
        if image.name ∈ c.store.images then (.error (.alreadyExists .image image.name), c)
        else (.ok image, ⟨c.store.putImage image,
          c.log ++ [.debug storeReporter "creating image" [("image", image.name)]]⟩) := by
  rw [createImage]
  cases image.expand with
  | error fault => rfl
  | ok image =>
    simp only [serve_bind, serve_changing, Store.createImage]
    by_cases h : image.name ∈ c.store.images
    · simp only [if_pos h]; rfl
    · simp only [if_neg h]; rfl

/-- An image replaces the stored one of its name, and is refused when there is none. -/
theorem serve_updateImage (c : ControlPlane) (image : Image) :
    c.serve (updateImage image) =
      if image.name ∈ c.store.images then
        (.ok image, ⟨c.store.putImage image,
          c.log ++ [.debug storeReporter "updating image" [("image", image.name)]]⟩)
      else (.error (.notFound .image image.name), c) := by
  rw [updateImage, serve_bind, serve_changing, Store.updateImage]
  by_cases h : image.name ∈ c.store.images
  · simp only [if_pos h]; rfl
  · simp only [if_neg h]; rfl

/-- A stream is stored when none is stored under its key. -/
theorem serve_createStream (c : ControlPlane) (now : Timestamp) (stream : ImageStream) :
    c.serve (createStream now stream) =
      if stream.key ∈ c.store.streams then
        (.error (.alreadyExists .imageStream stream.key.toText), c)
      else
        (.ok (Store.stamp stream (some now)),
          ⟨c.store.putStream (Store.stamp stream (some now)),
            c.log ++ [.debug storeReporter "creating image stream"
              [("namespace", stream.metadata.ns), ("name", stream.metadata.name)]]⟩) := by
  rw [createStream, serve_bind, serve_changing, Store.createStream]
  by_cases h : stream.key ∈ c.store.streams
  · simp only [if_pos h]
  · simp only [if_neg h]; rfl

/-- A stream replaces the stored one and keeps its time of creation, and is refused when there is
none. -/
theorem serve_updateStream (c : ControlPlane) (stream : ImageStream) :
    c.serve (updateStream stream) =
      match c.store.streams[stream.key]? with
      | none => (.error (.notFound .imageStream stream.key.toText), c)
      | some stored =>
        (.ok (Store.stamp stream stored.metadata.created),
          ⟨c.store.putStream (Store.stamp stream stored.metadata.created),
            c.log ++ [.debug storeReporter "updating image stream"
              [("namespace", stream.metadata.ns), ("name", stream.metadata.name)]]⟩) := by
  rw [updateStream, serve_bind, serve_changing, Store.updateStream]
  cases c.store.streams[stream.key]? with
  | none => rfl
  | some stored => rfl

/-- Keeping an image fails only when its manifests cannot be filled in. -/
theorem serve_ensureImage (c : ControlPlane) (image : Image) :
    ∃ log, c.serve (ensureImage image) =
      match image.expand with
      | .error fault => (.error (.badRequest fault), ⟨c.store, log⟩)
      | .ok image => (.ok (), ⟨c.store.writeAll (c.store.keep image), log⟩) := by
  simp only [ensureImage, serve_tryCatch, serve_discard, serve_createImage]
  cases image.expand with
  | error fault => exact ⟨c.log, rfl⟩
  | ok expanded =>
    by_cases h : expanded.name ∈ c.store.images
    · -- the refusal to store it again is passed over
      simp only [if_pos h, Store.keep]
      exact ⟨_, rfl⟩
    · simp only [if_neg h, Store.keep]
      exact ⟨_, rfl⟩

/-- A stream that is not stored yet stands for an empty one. -/
theorem serve_streamOrNew (c : ControlPlane) (key : StreamKey) :
    c.serve (streamOrNew key) =
      (.ok (c.store.streams[key]?.getD (.empty key.ns key.name)), c) := by
  rw [streamOrNew, serve_tryCatch, serve_getStream, Store.getStream]
  cases c.store.streams[key]? with
  | none => rfl
  | some stream => rfl

/-! ### Persisting a stream -/

theorem stamp_created (stream : ImageStream) :
    Store.stamp stream stream.metadata.created = stream := rfl

/-- A stored stream whose tags have changed replaces the old one as it is. -/
theorem serve_updateStream_of_stored {c : ControlPlane} (hc : c.store.WellFormed)
    {key : StreamKey} {stored stream : ImageStream} (hstored : c.store.streams[key]? = some stored)
    (hmeta : stream.metadata = stored.metadata) :
    ∃ log, c.serve (updateStream stream) = (.ok stream, ⟨c.store.putStream stream, log⟩) := by
  -- the update looks for the key of the changed stream, which is that of the stored one
  have hkey : stream.key = key := by
    rw [← hc.stream_key hstored, ImageStream.key, hmeta, ImageStream.key]
  simp only [serve_updateStream, hkey, hstored, ← hmeta]
  exact ⟨_, rfl⟩

/-- A stream that was found under a key, or is new there, is stored when its tags have changed.
It keeps its time of creation, or is created now. -/
theorem serve_persist {c : ControlPlane} (hc : c.store.WellFormed) (now : Timestamp)
    {key : StreamKey} {stream : ImageStream}
    (hmeta : stream.metadata =
      (c.store.streams[key]?.getD (.empty key.ns key.name)).metadata) :
    ∃ log, c.serve (if stream.metadata.created.isNone then createStream now stream
        else updateStream stream) =
      (.ok (Store.stamp stream (some (stream.metadata.created.getD now))),
        ⟨c.store.putStream (Store.stamp stream (some (stream.metadata.created.getD now))),
          log⟩) := by
  cases hstored : c.store.streams[key]? with
  | none =>
    rw [hstored] at hmeta
    -- an empty stream has no time of creation, so it is created
    have hcreated : stream.metadata.created = none := by rw [hmeta]; rfl
    have hkey : stream.key = key := by rw [ImageStream.key, hmeta]; rfl
    have hnew : stream.key ∉ c.store.streams := by
      rw [hkey, Std.ExtTreeMap.mem_iff_isSome_getElem?, hstored]
      exact Bool.false_ne_true
    rw [hcreated, Option.isNone_none, if_pos rfl, serve_createStream, if_neg hnew]
    exact ⟨_, rfl⟩
  | some stored =>
    rw [hstored] at hmeta
    -- a stored stream has one, so it is updated
    obtain ⟨time, htime⟩ := Option.isSome_iff_exists.1 (hc.created hstored)
    have hcreated : stream.metadata.created = some time := by rw [hmeta]; exact htime
    have hstamp : Store.stamp stream (some (stream.metadata.created.getD now)) = stream := by
      rw [hcreated, Option.getD_some, ← hcreated, stamp_created]
    rw [hstamp, hcreated, Option.isNone_some, if_neg Bool.false_ne_true]
    exact serve_updateStream_of_stored hc hstored hmeta

/-! ### Effects of operations -/

/-- Done at some time on a well-formed store, a service answers and writes what a request says. -/
def Fulfils (now : Timestamp) (service : Service Outcome) (request : Request) : Prop :=
  ∀ c : ControlPlane, c.store.WellFormed →
    c.settle service =
      ((request.effect now c.store).1, c.store.writeAll (request.effect now c.store).2)

/-- Creating an image answers and writes what the request for it says. -/
theorem fulfils_createImage (now : Timestamp) (image : Image) :
    Fulfils now (.image <$> createImage image) (.createImage image) := by
  intro c _
  simp only [settle, serve_map, serve_createImage, Request.effect]
  cases image.expand with
  | error fault => rfl
  | ok expanded =>
    simp only
    split
    next => rfl
    next => rfl

/-- Replacing an image answers and writes what the request for it says. -/
theorem fulfils_updateImage (now : Timestamp) (image : Image) :
    Fulfils now (.image <$> updateImage image) (.updateImage image) := by
  intro c _
  simp only [settle, serve_map, serve_updateImage, Request.effect]
  split
  next => rfl
  next => rfl

/-- Creating a stream answers and writes what the request for it says. -/
theorem fulfils_createStream (now : Timestamp) (stream : ImageStream) :
    Fulfils now (.stream <$> createStream now stream) (.createStream stream) := by
  intro c _
  simp only [settle, serve_map, serve_createStream, Request.effect]
  split
  next => rfl
  next => rfl

/-- Replacing a stream answers and writes what the request for it says. -/
theorem fulfils_updateStream (now : Timestamp) (stream : ImageStream) :
    Fulfils now (.stream <$> updateStream stream) (.updateStream stream) := by
  intro c _
  simp only [settle, serve_map, serve_updateStream, Request.effect]
  cases c.store.streams[stream.key]? with
  | none => rfl
  | some stored => rfl

/-- A mapping finds its stream, keeps its image and adds an event. -/
theorem fulfils_createMapping (now : Timestamp) (ns : String) (mapping : ImageStreamMapping) :
    Fulfils now (.mapping <$> createMapping now ns mapping) (.createMapping ns mapping) := by
  intro c hc
  simp only [settle, serve_map, createMapping, serve_bind, serve_getStream, Store.getStream,
    Request.effect]
  cases hstored : c.store.streams[(⟨effectiveNamespace ns mapping.metadata.ns,
      mapping.metadata.name⟩ : StreamKey)]? with
  | none => rfl
  | some stream =>
    obtain ⟨log, hkept⟩ := serve_ensureImage c mapping.image
    cases hexpand : mapping.image.expand with
    | error fault =>
      simp only [hexpand] at hkept
      simp only [hkept]
      rfl
    | ok image =>
      simp only [hexpand] at hkept
      let kept : ControlPlane := ⟨c.store.writeAll (c.store.keep image), log⟩
      -- the stream is still there once the image is kept
      have hfound : kept.store.streams[(⟨effectiveNamespace ns mapping.metadata.ns,
          mapping.metadata.name⟩ : StreamKey)]? = some stream := by
        rw [Store.streams_writeAll_keep]
        exact hstored
      have hmeta : (stream.pushTagEvent mapping.tag
          (.now now mapping.image.reference mapping.image.name)).metadata = stream.metadata := rfl
      obtain ⟨log', hupdated⟩ := serve_updateStream_of_stored (hc.keep image) hfound hmeta
      simp only [kept] at hupdated
      simp only [hkept, serve_discard, hupdated]
      rfl

/-- A new tag is refused when its name is no tag name or is taken; its stream is persisted. -/
theorem fulfils_createTag (now : Timestamp) (ns : String) (request : ImageStreamTag) :
    Fulfils now (.tag <$> createTag now ns request) (.createTag ns request) := by
  intro c hc
  simp only [settle, serve_map, createTag, Request.effect]
  rcases Name.splitTag? request.metadata.name with _ | ⟨name, tag⟩
  · rfl
  · -- the stream as it is before the tag, so that persisting it finds its metadata unchanged
    let key : StreamKey := ⟨effectiveNamespace ns request.metadata.ns, name⟩
    let found : ImageStream := c.store.streams[key]?.getD (.empty key.ns key.name)
    simp only [serve_bind, serve_streamOrNew]
    by_cases htaken : (found.specTag? tag).isSome
    · simp only [found, key] at htaken
      simp only [if_pos htaken]
      rfl
    · obtain ⟨log, hpersist⟩ := serve_persist hc now
        (show ((found.addSpecTag { request.tag.getD {} with name := tag }).pushTagEvent tag
          (tagEvent now request)).metadata = found.metadata from rfl)
      simp only [found, key] at htaken hpersist
      rw [if_neg htaken, serve_ite_bind, serve_bind, hpersist]
      simp only [if_neg htaken]
      rfl

theorem fulfils_getImage (now : Timestamp) (name : String) :
    Fulfils now (.image <$> getImage name) (.getImage name) := by
  intro c _
  simp only [settle, serve_map, getImage, serve_lookingUp]
  rfl

theorem fulfils_getStream (now : Timestamp) (key : StreamKey) :
    Fulfils now (.stream <$> getStream key) (.getStream key) := by
  intro c _
  simp only [settle, serve_map, serve_getStream]
  rfl

theorem fulfils_getLayers (now : Timestamp) (key : StreamKey) :
    Fulfils now (.layers <$> getLayers key) (.getLayers key) := by
  intro c _
  simp only [settle, serve_map, getLayers, serve_bind, serve_reading, Request.getLayers,
    Request.effect, Store.getLayers, id]
  split
  next => rfl
  next => rfl

theorem fulfils_getStreamImage (now : Timestamp) (ns name : String) :
    Fulfils now (.streamImage <$> getStreamImage ns name) (.getStreamImage ns name) := by
  intro c _
  simp only [settle, serve_map, getStreamImage, Request.getStreamImage, Request.effect,
    Store.getStreamImage]
  cases Name.splitImage? name with
  | none => rfl
  | some halves =>
    simp only [serve_bind, serve_getStream]
    cases c.store.getStream ⟨ns, halves.1⟩ with
    | error e => rfl
    | ok stream =>
      simp only
      cases stream.findImage? halves.2 with
      | none => rfl
      | some imageName =>
        simp only [serve_bind, getImage, serve_lookingUp, serve_report]
        cases c.store.getImage imageName with
        | error e => rfl
        | ok image =>
          simp only
          rcases image.derive with ⟨fault | outcome, image⟩ <;> rfl

/-- Serving an action fulfils the request that it makes. -/
theorem fulfils_route (now : Timestamp) (action : Action) :
    Fulfils now (route now action) (.ofAction action) := by
  have hrefuse : ∀ e, Fulfils now (throw e) (.refuse e) := fun _ _ _ => rfl
  obtain ⟨verb, resource, subresource, ns, name, object⟩ := action
  simp only [route, Request.ofAction]
  generalize Subresource.ofText? subresource = part
  -- the combinations without a service are refused on both sides; those that remain are named
  cases verb <;> cases resource <;> rcases part with _ | _ | _ | _ <;> try exact hrefuse _
  case create.image.some.itself =>
    rcases object with _ | (image | _ | _ | _) <;> try exact hrefuse _
    exact fulfils_createImage now image
  case create.imageStream.some.itself =>
    rcases object with _ | (_ | stream | _ | _) <;> try exact hrefuse _
    exact fulfils_createStream now (relocate stream ns)
  case create.imageStreamMapping.some.itself =>
    rcases object with _ | (_ | _ | mapping | _) <;> try exact hrefuse _
    exact fulfils_createMapping now ns mapping
  case create.imageStreamTag.some.itself =>
    rcases object with _ | (_ | _ | _ | tag) <;> try exact hrefuse _
    exact fulfils_createTag now ns tag
  case get.image.some.itself => exact fulfils_getImage now name
  case get.imageStream.some.itself => exact fulfils_getStream now ⟨ns, name⟩
  case get.imageStream.some.layers => exact fulfils_getLayers now ⟨ns, name⟩
  case get.imageStream.some.secrets => exact fun _ _ => rfl
  case get.imageStreamImage.some.itself => exact fulfils_getStreamImage now ns name
  case list.image.some.itself => exact fun _ _ => rfl
  case list.imageStream.some.itself => exact fun _ _ => rfl
  case update.image.some.itself =>
    rcases object with _ | (image | _ | _ | _) <;> try exact hrefuse _
    exact fulfils_updateImage now image
  case update.imageStream.some.itself =>
    rcases object with _ | (_ | stream | _ | _) <;> try exact hrefuse _
    exact fulfils_updateStream now (relocate stream ns)

/-- Doing an operation fulfils the request that it makes. -/
theorem fulfils_perform (now : Timestamp) (operation : Operation) :
    Fulfils now (perform now operation) operation.request := by
  cases operation with
  | createImage image => exact fulfils_createImage now image
  | getImage name => exact fulfils_getImage now name
  | listImages ns => exact fun _ _ => rfl
  | updateImage image => exact fulfils_updateImage now image
  | createStream stream => exact fulfils_createStream now stream
  | getStream key => exact fulfils_getStream now key
  | listStreams ns => exact fun _ _ => rfl
  | updateStream stream => exact fulfils_updateStream now stream
  | getSecrets key => exact fun _ _ => rfl
  | getLayers key => exact fulfils_getLayers now key
  | getStreamImage ns name => exact fulfils_getStreamImage now ns name
  | createMapping ns mapping => exact fulfils_createMapping now ns mapping
  | createTag ns request => exact fulfils_createTag now ns request
  | dispatch action =>
    -- the report made first does not touch the store
    intro c hc
    have hserve : c.serve (perform now (.dispatch action)) =
        (⟨c.store, c.log ++ [dispatchEvent action]⟩ : ControlPlane).serve (route now action) := by
      rw [perform, dispatch, serve_bind, serve_report]
    rw [settle, hserve]
    exact fulfils_route now action _ hc

end ControlPlane

end RegistryBench
