import RegistryBench.ControlPlane.Dispatch

/-!
# What operations answer and write

Every operation of a control plane comes down to a request: one of six changes, or a look at the
store. What a request answers and which images and streams it writes is a function of the store
alone, so the effect of an operation can be read off without running its steps.

* `Store.WellFormed` holds of the stores that operations can reach.
* `Request.effect` is the answer of a request, with its writes.
* `effect_cases` says all that a request can do; invariants of the store follow from it.
* `wellFormed_effect`: a request keeps a store well formed.
-/

namespace RegistryBench

/-! ### Writes -/

/-- A change of a store. -/
inductive Write where
  /-- An image is put in the place of its name. -/
  | image (image : Image)
  /-- A stream is put in the place of its key. -/
  | stream (stream : ImageStream)

namespace Store

/-- The store after a write. -/
def write (store : Store) : Write → Store
  | .image image => store.putImage image
  | .stream stream => store.putStream stream

/-- The store after some writes, the newest of which comes first. -/
def writeAll (store : Store) : List Write → Store
  | [] => store
  | w :: writes => (store.writeAll writes).write w

@[simp]
theorem writeAll_nil (store : Store) : store.writeAll [] = store := rfl

@[simp]
theorem writeAll_cons (store : Store) (w : Write) (writes : List Write) :
    store.writeAll (w :: writes) = (store.writeAll writes).write w := rfl

@[simp]
theorem write_image (store : Store) (image : Image) :
    store.write (.image image) = store.putImage image := rfl

@[simp]
theorem write_stream (store : Store) (stream : ImageStream) :
    store.write (.stream stream) = store.putStream stream := rfl

/-- Newer writes are done on the store that older ones leave behind. -/
theorem writeAll_append (store : Store) (newer older : List Write) :
    store.writeAll (newer ++ older) = (store.writeAll older).writeAll newer := by
  induction newer with
  | nil => rfl
  | cons w newer ih => rw [List.cons_append, writeAll_cons, writeAll_cons, ih]

/-- What is stored in a store that operations can reach: everything under its own name, and every
stream with the time of its creation. -/
structure WellFormed (store : Store) : Prop where
  /-- An image is stored under its name. -/
  image_name : ∀ {name : String} {image : Image}, store.image? name = some image →
    image.name = name
  /-- A stream is stored under its namespace and name. -/
  stream_key : ∀ {key : StreamKey} {stream : ImageStream}, store.streams[key]? = some stream →
    stream.key = key
  /-- A stored stream says when it was created. -/
  created : ∀ {key : StreamKey} {stream : ImageStream}, store.streams[key]? = some stream →
    stream.metadata.created.isSome

/-- An empty store is well-formed. -/
theorem wellFormed_empty : empty.WellFormed where
  image_name h := by simp [empty, image?] at h
  stream_key h := by simp [empty] at h
  created h := by simp [empty] at h

/-- A store stays well-formed when an image is stored under its name. -/
theorem WellFormed.putImage {store : Store} (h : store.WellFormed) (image : Image) :
    (store.putImage image).WellFormed where
  image_name {name stored} hstored := by
    rw [image?_putImage] at hstored
    split at hstored
    next hname => exact Option.some.inj hstored ▸ hname
    next => exact h.image_name hstored
  stream_key := h.stream_key
  created := h.created

/-- A store stays well-formed when a stream is stored that says when it was created. -/
theorem WellFormed.putStream {store : Store} (h : store.WellFormed) {stream : ImageStream}
    (hcreated : stream.metadata.created.isSome) : (store.putStream stream).WellFormed where
  image_name := h.image_name
  stream_key {key stored} hstored := by
    rw [streams_putStream] at hstored
    split at hstored
    next hkey => exact Option.some.inj hstored ▸ hkey
    next => exact h.stream_key hstored
  created {key stored} hstored := by
    rw [streams_putStream] at hstored
    split at hstored
    next => exact Option.some.inj hstored ▸ hcreated
    next => exact h.created hstored

/-- The writes that make sure an image is stored: none when one of its name is. -/
def keep (store : Store) (image : Image) : List Write :=
  if image.name ∈ store.images then [] else [.image image]

/-- Keeping an image leaves the streams alone. -/
@[simp]
theorem streams_writeAll_keep (store : Store) (image : Image) :
    (store.writeAll (store.keep image)).streams = store.streams := by
  unfold keep
  split <;> rfl

/-- A store stays well-formed when an image is kept. -/
theorem WellFormed.keep {store : Store} (h : store.WellFormed) (image : Image) :
    (store.writeAll (store.keep image)).WellFormed := by
  unfold Store.keep
  split
  · exact h
  · exact h.putImage image

end Store

/-! ### Requests -/

/-- The errors that a control plane answers: something is stored already or not at all, a request
cannot be understood, or there is no way to serve it. -/
def Error.OfControlPlane : Error → Prop
  | .alreadyExists .. | .notFound .. | .badRequest .. | .notImplemented .. => True
  | .loopDetected .. | .cancelled .. | .stat .. | .setting .. => False

/-- What an operation comes down to. -/
inductive ControlPlane.Request where
  /-- Store a new image. -/
  | createImage (image : Image)
  /-- Replace an image. -/
  | updateImage (image : Image)
  /-- Store a new stream. -/
  | createStream (stream : ImageStream)
  /-- Replace a stream. -/
  | updateStream (stream : ImageStream)
  /-- Point a tag at an image. -/
  | createMapping (ns : String) (mapping : ImageStreamMapping)
  /-- Add a tag to a stream. -/
  | createTag (ns : String) (tag : ImageStreamTag)
  /-- Answer from what is stored. -/
  | look (answer : Store → Except Error Outcome)

namespace Store

/-- The layers view of a stream. -/
def getLayers (store : Store) (key : StreamKey) : Except Error StreamLayers :=
  if store.hasStream key then
    let view := LayersView.build ((store.layerIndex? key).getD ∅) store.image?
    .ok ⟨.named key.ns key.name, view.blobs, view.images⟩
  else .error (.notFound .imageStream key.toText)

/-- An image seen through a stream, without its payloads. -/
def getStreamImage (store : Store) (ns name : String) : Except Error ImageStreamImage :=
  match Name.splitImage? name with
  | none => .error (.badRequest (.streamImageName name))
  | some (streamName, id) =>
    match store.getStream ⟨ns, streamName⟩ with
    | .error e => .error e
    | .ok stream =>
      match stream.findImage? id with
      | none => .error (.notFound .imageStreamImage name)
      | some imageName =>
        match store.getImage imageName with
        | .error e => .error e
        | .ok image =>
          match image.derive with
          | (.error fault, _) => .error (.badRequest fault)
          | (.ok _, image) =>
            .ok {
              metadata := {
                name := Name.joinImage streamName imageName
                ns
                created := image.metadata.created }
              image := { image with manifest := "", config := "" } }

end Store

namespace ControlPlane

namespace Request

/-- Show an image. -/
def getImage (name : String) : Request :=
  .look fun store => (store.getImage name).map .image

/-- Show images. -/
def listImages (ns : String) : Request :=
  .look fun store => .ok (.images (store.listImages ns))

/-- Show a stream. -/
def getStream (key : StreamKey) : Request :=
  .look fun store => (store.getStream key).map .stream

/-- Show streams. -/
def listStreams (ns : String) : Request :=
  .look fun store => .ok (.streams (store.listStreams ns))

/-- Show the secrets of a stream. -/
def getSecrets : Request :=
  .look fun _ => .ok (.secrets {})

/-- Show the layers view of a stream. -/
def getLayers (key : StreamKey) : Request :=
  .look fun store => (store.getLayers key).map .layers

/-- Show an image seen through a stream. -/
def getStreamImage (ns name : String) : Request :=
  .look fun store => (store.getStreamImage ns name).map .streamImage

/-- Refuse an action whatever is stored. -/
def refuse (e : Error) : Request :=
  .look fun _ => .error e

/-- The request that an action makes. -/
def ofAction (action : Action) : Request :=
  match action.verb, action.resource, Subresource.ofText? action.subresource with
  | .create, .image, some .itself =>
    match action.object with
    | some (.image image) => .createImage image
    | _ => refuse action.mismatch
  | .get, .image, some .itself => getImage action.name
  | .list, .image, some .itself => listImages action.ns
  | .update, .image, some .itself =>
    match action.object with
    | some (.image image) => .updateImage image
    | _ => refuse action.mismatch
  | .create, .imageStream, some .itself =>
    match action.object with
    | some (.stream stream) => .createStream (relocate stream action.ns)
    | _ => refuse action.mismatch
  | .get, .imageStream, some .itself => getStream ⟨action.ns, action.name⟩
  | .list, .imageStream, some .itself => listStreams action.ns
  | .update, .imageStream, some .itself =>
    match action.object with
    | some (.stream stream) => .updateStream (relocate stream action.ns)
    | _ => refuse action.mismatch
  | .get, .imageStream, some .layers => getLayers ⟨action.ns, action.name⟩
  | .get, .imageStream, some .secrets => getSecrets
  | .create, .imageStreamMapping, some .itself =>
    match action.object with
    | some (.mapping mapping) => .createMapping action.ns mapping
    | _ => refuse action.mismatch
  | .create, .imageStreamTag, some .itself =>
    match action.object with
    | some (.tag tag) => .createTag action.ns tag
    | _ => refuse action.mismatch
  | .get, .imageStreamImage, some .itself => getStreamImage action.ns action.name
  | _, _, _ => refuse (.notImplemented action.verb action.resource action.subresource)

end Request

/-- The request that an operation makes. -/
def Operation.request : Operation → Request
  | .createImage image => .createImage image
  | .getImage name => .getImage name
  | .listImages ns => .listImages ns
  | .updateImage image => .updateImage image
  | .createStream stream => .createStream stream
  | .getStream key => .getStream key
  | .listStreams ns => .listStreams ns
  | .updateStream stream => .updateStream stream
  | .getSecrets _ => .getSecrets
  | .getLayers key => .getLayers key
  | .getStreamImage ns name => .getStreamImage ns name
  | .createMapping ns mapping => .createMapping ns mapping
  | .createTag ns tag => .createTag ns tag
  | .dispatch action => .ofAction action

/-! ### Effects -/

namespace Request

/-- What a request answers at some time, and what it then writes. -/
def effect (now : Timestamp) (store : Store) : Request → Except Error Outcome × List Write
  | .createImage image =>
    match image.expand with
    | .error fault => (.error (.badRequest fault), [])
    | .ok image =>
      if image.name ∈ store.images then (.error (.alreadyExists .image image.name), [])
      else (.ok (.image image), [.image image])
  | .updateImage image =>
    if image.name ∈ store.images then (.ok (.image image), [.image image])
    else (.error (.notFound .image image.name), [])
  | .createStream stream =>
    if stream.key ∈ store.streams then
      (.error (.alreadyExists .imageStream stream.key.toText), [])
    else
      let stream := Store.stamp stream (some now)
      (.ok (.stream stream), [.stream stream])
  | .updateStream stream =>
    match store.streams[stream.key]? with
    | none => (.error (.notFound .imageStream stream.key.toText), [])
    | some stored =>
      let stream := Store.stamp stream stored.metadata.created
      (.ok (.stream stream), [.stream stream])
  | .createMapping ns mapping =>
    let key : StreamKey := ⟨effectiveNamespace ns mapping.metadata.ns, mapping.metadata.name⟩
    match store.streams[key]?, mapping.image.expand with
    | none, _ => (.error (.notFound .imageStream key.toText), [])
    | some _, .error fault => (.error (.badRequest fault), [])
    | some stream, .ok image =>
      let event := .now now mapping.image.reference mapping.image.name
      (.ok (.mapping { mapping with metadata.ns := key.ns }),
        .stream (stream.pushTagEvent mapping.tag event) :: store.keep image)
  | .createTag ns request =>
    match Name.splitTag? request.metadata.name with
    | none => (.error (.badRequest (.tagName request.metadata.name)), [])
    | some (name, tag) =>
      let key : StreamKey := ⟨effectiveNamespace ns request.metadata.ns, name⟩
      let stream := store.streams[key]?.getD (.empty key.ns key.name)
      if (stream.specTag? tag).isSome then
        (.error (.alreadyExists .imageStreamTag request.metadata.name), [])
      else
        let reference : TagReference := { request.tag.getD {} with name := tag }
        let stream := (stream.addSpecTag reference).pushTagEvent tag (tagEvent now request)
        let stream := Store.stamp stream (some (stream.metadata.created.getD now))
        (.ok (.tag {
            metadata := { request.metadata with ns := key.ns, created := stream.metadata.created }
            tag := some reference
            image := request.image }),
          [.stream stream])
  | .look answer => (answer store, [])

end Request

/-! ### What requests can do -/

/-- What keeping an image writes: nothing, or an image of a new name. -/
theorem keep_cases (store : Store) (image : Image) :
    store.keep image = [] ∨ image.name ∉ store.images ∧ store.keep image = [.image image] := by
  rw [Store.keep]
  split
  next => exact Or.inl rfl
  next hnew => exact Or.inr ⟨hnew, rfl⟩

/-- A request looks at the store, or fails and writes nothing, or writes an image, which is new
unless the request is to replace it, or writes a stream, maybe after a new image. -/
theorem effect_cases (now : Timestamp) (store : Store) (request : Request) :
    (∃ answer, request = .look answer) ∨
      (∃ e, request.effect now store = (.error e, []) ∧ e.OfControlPlane) ∨
      (∃ outcome image, request.effect now store = (.ok outcome, [.image image]) ∧
        (image.name ∈ store.images → request = .updateImage image)) ∨
      ∃ outcome stream kept, request.effect now store = (.ok outcome, .stream stream :: kept) ∧
        (kept = [] ∨ ∃ image, image.name ∉ store.images ∧ kept = [.image image]) ∧
        (store.WellFormed → stream.metadata.created.isSome) := by
  cases request with
  | createImage image =>
    refine Or.inr ?_
    simp only [Request.effect]
    split
    · exact Or.inl ⟨_, rfl, trivial⟩
    · split
      next => exact Or.inl ⟨_, rfl, trivial⟩
      next hnew => exact Or.inr (Or.inl ⟨_, _, rfl, fun hstored => absurd hstored hnew⟩)
  | updateImage image =>
    refine Or.inr ?_
    simp only [Request.effect]
    split
    next => exact Or.inr (Or.inl ⟨_, _, rfl, fun _ => rfl⟩)
    next => exact Or.inl ⟨_, rfl, trivial⟩
  | createStream stream =>
    refine Or.inr ?_
    simp only [Request.effect]
    split
    next => exact Or.inl ⟨_, rfl, trivial⟩
    next => exact Or.inr (Or.inr ⟨_, _, _, rfl, Or.inl rfl, fun _ => rfl⟩)
  | updateStream stream =>
    refine Or.inr ?_
    simp only [Request.effect]
    split
    next => exact Or.inl ⟨_, rfl, trivial⟩
    next stored hstored =>
      have hcreated (h : store.WellFormed) : stored.metadata.created.isSome := h.created hstored
      exact Or.inr (Or.inr ⟨_, _, _, rfl, Or.inl rfl, hcreated⟩)
  | createMapping ns mapping =>
    refine Or.inr ?_
    simp only [Request.effect]
    split
    next => exact Or.inl ⟨_, rfl, trivial⟩
    next => exact Or.inl ⟨_, rfl, trivial⟩
    next stream image hstored _ =>
      -- the image is kept before the stream is written
      have hkept : store.keep image = [] ∨
          ∃ kept, kept.name ∉ store.images ∧ store.keep image = [.image kept] :=
        (keep_cases store image).imp_right fun h => ⟨image, h⟩
      have hcreated (h : store.WellFormed) : stream.metadata.created.isSome := h.created hstored
      exact Or.inr (Or.inr ⟨_, _, _, rfl, hkept, hcreated⟩)
  | createTag ns request =>
    -- a new tag stores no image, whatever it names
    refine Or.inr ?_
    simp only [Request.effect]
    split
    next => exact Or.inl ⟨_, rfl, trivial⟩
    next =>
      split
      next => exact Or.inl ⟨_, rfl, trivial⟩
      next => exact Or.inr (Or.inr ⟨_, _, _, rfl, Or.inl rfl, fun _ => rfl⟩)
  | look answer => exact Or.inl ⟨answer, rfl⟩

/-- What a request writes keeps a store well formed. -/
theorem wellFormed_effect {store : Store} (h : store.WellFormed) (now : Timestamp)
    (request : Request) : (store.writeAll (request.effect now store).2).WellFormed := by
  obtain ⟨answer, rfl⟩ | ⟨e, heffect, -⟩ | ⟨outcome, image, heffect, -⟩ |
    ⟨outcome, stream, kept, heffect, hkept, hcreated⟩ := effect_cases now store request
  · exact h
  · rw [heffect]
    exact h
  · rw [heffect]
    exact h.putImage image
  · rw [heffect]
    obtain rfl | ⟨image, -, rfl⟩ := hkept
    · exact h.putStream (hcreated h)
    · exact (h.putImage image).putStream (hcreated h)

end ControlPlane

end RegistryBench
