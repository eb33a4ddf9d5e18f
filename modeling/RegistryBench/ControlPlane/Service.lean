import RegistryBench.ControlPlane.Expansion
import RegistryBench.ControlPlane.LayersView
import RegistryBench.ControlPlane.Resolution
import RegistryBench.ControlPlane.Store
import RegistryBench.Resource.Name

/-!
# The services of the control plane

Each service reads and changes the store, reports what it does, and may fail; what was done before
a failure stays done. Services that need the time take it as an argument.
-/

namespace RegistryBench

/-- A control plane: its store, and what it has reported, oldest first. -/
structure ControlPlane where
  /-- The images and streams. -/
  store : Store
  /-- What was reported. -/
  log : List Log.Event

/-- What a client may ask of a control plane. -/
abbrev Service := ExceptT Error (StateM ControlPlane)

namespace ControlPlane

variable {α β : Type}

/-- A control plane that stores nothing. -/
def empty : ControlPlane := ⟨.empty, []⟩

/-- Serve a request: the result and the control plane afterwards. -/
def serve (c : ControlPlane) (service : Service α) : Except Error α × ControlPlane :=
  (ExceptT.run service).run c

@[simp]
theorem serve_pure (c : ControlPlane) (a : α) :
    c.serve (pure a) = (.ok a, c) := rfl

@[simp]
theorem serve_throw (c : ControlPlane) (e : Error) :
    c.serve (throw e : Service α) = (.error e, c) := rfl

/-- A service that goes on after another one does so only when that one succeeds. -/
theorem serve_bind (c : ControlPlane) (service : Service α) (next : α → Service β) :
    c.serve (service >>= next) =
      match c.serve service with
      | (.ok a, c) => c.serve (next a)
      | (.error e, c) => (.error e, c) := by
  simp only [serve, ExceptT.run_bind]
  rcases h : (ExceptT.run service).run c with ⟨r, c'⟩
  cases r <;> simp [StateT.run_bind, h] <;> rfl

@[simp]
theorem serve_get (c : ControlPlane) : c.serve get = (.ok c, c) := rfl

/-- A function of what a service answers is applied only when it succeeds. -/
theorem serve_map (c : ControlPlane) (f : α → β) (service : Service α) :
    c.serve (f <$> service) = ((c.serve service).1.map f, (c.serve service).2) := by
  rw [← bind_pure_comp, serve_bind]
  rcases h : c.serve service with ⟨a | e, c'⟩ <;> rfl

/-- An answer that is not looked at leaves the effect as it is. -/
theorem serve_discard (c : ControlPlane) (service : Service α) :
    c.serve (discard service) = ((c.serve service).1.map fun _ => (), (c.serve service).2) :=
  serve_map c (fun _ => ()) service

/-- What a service did before it failed stays done. -/
theorem serve_tryCatch (c : ControlPlane) (service : Service α) (handle : Error → Service α) :
    c.serve (tryCatch service handle) =
      match c.serve service with
      | (.ok a, c) => (.ok a, c)
      | (.error e, c) => c.serve (handle e) := by
  simp only [serve]
  rcases h : (ExceptT.run service).run c with ⟨r, c'⟩
  have h' : service c = (r, c') := h
  simp only [tryCatch, tryCatchThe, MonadExceptOf.tryCatch, ExceptT.tryCatch, ExceptT.run,
    ExceptT.mk, StateT.run, bind, StateT.bind, h']
  cases r with
  | error e => rfl
  | ok a => rfl

/-- Report events. -/
def reportAll (events : List Log.Event) : Service Unit :=
  modify fun c => { c with log := c.log ++ events }

/-- Report an event. -/
def report (event : Log.Event) : Service Unit :=
  reportAll [event]

/-- Read something from the store. -/
def reading (f : Store → α) : Service α := do
  return f (← get).store

/-- Look something up in the store. -/
def lookingUp (f : Store → Except Error α) : Service α := do
  match f (← get).store with
  | .ok a => return a
  | .error e => throw e

/-- Change the store. -/
def changing (f : Store → Except Error (α × Store)) : Service α := do
  match f (← get).store with
  | .ok (a, store) =>
    modify fun c => { c with store }
    return a
  | .error e => throw e

/-- Reports go behind the log. -/
@[simp]
theorem serve_reportAll (c : ControlPlane) (events : List Log.Event) :
    c.serve (reportAll events) = (.ok (), { c with log := c.log ++ events }) := rfl

@[simp]
theorem serve_report (c : ControlPlane) (event : Log.Event) :
    c.serve (report event) = (.ok (), { c with log := c.log ++ [event] }) := rfl

@[simp]
theorem serve_reading (c : ControlPlane) (f : Store → α) :
    c.serve (reading f) = (.ok (f c.store), c) := rfl

/-- Looking something up may fail, and changes nothing. -/
@[simp]
theorem serve_lookingUp (c : ControlPlane) (f : Store → Except Error α) :
    c.serve (lookingUp f) = (f c.store, c) := by
  rw [lookingUp, serve_bind, serve_get]
  cases h : f c.store <;> simp [h]

/-- A change that the store refuses leaves the control plane as it was. -/
theorem serve_changing (c : ControlPlane) (f : Store → Except Error (α × Store)) :
    c.serve (changing f) =
      match f c.store with
      | .ok (a, store) => (.ok a, { c with store })
      | .error e => (.error e, c) := by
  rw [changing, serve_bind, serve_get]
  cases h : f c.store with
  | ok r => simp [h]; rfl
  | error e => simp [h]

/-- The module that reports about the store. -/
def storeReporter : String := "regharness::fake::store"

/-- The module that reports about services made of several steps. -/
def reporter : String := "regharness::fake"

/-! ### Images -/

/-- Store a new image, with the manifests of a manifest list filled in. -/
def createImage (image : Image) : Service Image := do
  match image.expand with
  | .error fault => throw (.badRequest fault)
  | .ok image =>
    changing fun store => (store.createImage image).map fun store => ((), store)
    report (.debug storeReporter "creating image" [("image", image.name)])
    return image

/-- Show an image. -/
def getImage (name : String) : Service Image :=
  lookingUp fun store => store.getImage name

/-- Show the images in a namespace, or all when it is empty. -/
def listImages (ns : String) : Service (List Image) :=
  reading fun store => store.listImages ns

/-- Replace a stored image, as it is. -/
def updateImage (image : Image) : Service Image := do
  changing fun store => (store.updateImage image).map fun store => ((), store)
  report (.debug storeReporter "updating image" [("image", image.name)])
  return image

/-! ### Streams -/

/-- Store a new stream. -/
def createStream (now : Timestamp) (stream : ImageStream) : Service ImageStream := do
  let stream ← changing fun store => store.createStream now stream
  report (.debug storeReporter "creating image stream"
    [("namespace", stream.metadata.ns), ("name", stream.metadata.name)])
  return stream

/-- Show a stream. -/
def getStream (key : StreamKey) : Service ImageStream :=
  lookingUp fun store => store.getStream key

/-- Show the streams in a namespace, or all when it is empty. -/
def listStreams (ns : String) : Service (List ImageStream) :=
  reading fun store => store.listStreams ns

/-- Replace a stored stream. -/
def updateStream (stream : ImageStream) : Service ImageStream := do
  let stream ← changing fun store => store.updateStream stream
  report (.debug storeReporter "updating image stream"
    [("namespace", stream.metadata.ns), ("name", stream.metadata.name)])
  return stream

/-- Show the secrets of a stream: none. -/
def getSecrets (key : StreamKey) : Service SecretList := do
  report (.debug reporter "serving empty secret list"
    [("namespace", key.ns), ("name", key.name)])
  return {}

/-- Show the layers view of a stream. -/
def getLayers (key : StreamKey) : Service StreamLayers := do
  let store ← reading id
  if store.hasStream key then
    let ids := (store.layerIndex? key).getD ∅
    let view := LayersView.build ids store.image?
    reportAll (LayersView.events ids store.image?)
    return ⟨.named key.ns key.name, view.blobs, view.images⟩
  else throw (.notFound .imageStream key.toText)

/-- The module that reports about images seen through streams. -/
def resolutionReporter : String := "regharness::fake::isi"

/-- Show an image seen through a stream, without its payloads. -/
def getStreamImage (ns name : String) : Service ImageStreamImage := do
  let some (streamName, id) := Name.splitImage? name
    | throw (.badRequest (.streamImageName name))
  let stream ← getStream ⟨ns, streamName⟩
  let some imageName := stream.findImage? id
    | throw (.notFound .imageStreamImage name)
  report (.debug resolutionReporter "resolved image stream image"
    [("namespace", ns), ("stream", streamName), ("id", id), ("image", imageName)])
  let image ← getImage imageName
  match image.derive with
  | (.error fault, _) => throw (.badRequest fault)
  | (.ok outcome, image) =>
    reportAll (outcome.events image.name)
    return {
      metadata := {
        name := Name.joinImage streamName imageName
        ns
        created := image.metadata.created }
      image := { image with manifest := "", config := "" } }

/-! ### Mappings and tags -/

/-- The namespace of a request: the one it is sent to, or else that of its object. -/
def effectiveNamespace (ns objectNs : String) : String :=
  if ns = "" then objectNs else ns

/-- Store an image unless one of its name is stored. -/
def ensureImage (image : Image) : Service Unit :=
  tryCatch (discard (createImage image)) fun e =>
    if e.isAlreadyExists then
      report (.debug reporter "image already exists, keeping it" [("image", image.name)])
    else throw e

/-- Point a tag of a stored stream at an image, which is stored if it is not yet. -/
def createMapping (now : Timestamp) (ns : String) (mapping : ImageStreamMapping) :
    Service ImageStreamMapping := do
  let ns := effectiveNamespace ns mapping.metadata.ns
  let stream ← getStream ⟨ns, mapping.metadata.name⟩
  ensureImage mapping.image
  let event := .now now mapping.image.reference mapping.image.name
  discard (updateStream (stream.pushTagEvent mapping.tag event))
  report (.debug reporter "mapped image into stream"
    [("namespace", ns), ("stream", mapping.metadata.name), ("tag", mapping.tag),
      ("image", mapping.image.name)])
  return { mapping with metadata.ns := ns }

/-- The event that a new tag begins with: its embedded image if it has one, else what its source
names, else nothing. -/
def tagEvent (now : Timestamp) (request : ImageStreamTag) : TagEvent :=
  if request.image.name ≠ "" then .now now request.image.reference request.image.name
  else
    match request.tag.bind TagReference.source with
    | none => .now now "" ""
    | some source =>
      if source.kind = ObjectReference.streamImageKind then
        .now now "" (((Name.splitImage? source.name).map (·.2)).getD "")
      else if source.kind = ObjectReference.dockerImageKind then .now now source.name ""
      else .now now "" ""

/-- A stored stream, or a new one that is not stored yet. -/
def streamOrNew (key : StreamKey) : Service ImageStream :=
  tryCatch (getStream key) fun e =>
    if e.isNotFound then return .empty key.ns key.name else throw e

/-- Add a tag to a stream, which is stored if it is not yet. -/
def createTag (now : Timestamp) (ns : String) (request : ImageStreamTag) :
    Service ImageStreamTag := do
  let ns := effectiveNamespace ns request.metadata.ns
  let some (streamName, tag) := Name.splitTag? request.metadata.name
    | throw (.badRequest (.tagName request.metadata.name))
  let stream ← streamOrNew ⟨ns, streamName⟩
  if (stream.specTag? tag).isSome then
    throw (.alreadyExists .imageStreamTag request.metadata.name)
  let reference : TagReference := { request.tag.getD {} with name := tag }
  let stream := (stream.addSpecTag reference).pushTagEvent tag (tagEvent now request)
  let stream ←
    if stream.metadata.created.isNone then createStream now stream else updateStream stream
  return {
    metadata := { request.metadata with ns, created := stream.metadata.created }
    tag := some reference
    image := request.image }

end ControlPlane

end RegistryBench
