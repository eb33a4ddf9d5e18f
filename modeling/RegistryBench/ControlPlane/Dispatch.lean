import RegistryBench.ControlPlane.Action
import RegistryBench.ControlPlane.Service

/-!
# Dispatching actions

Each action goes to the service for its verb, resource and subresource; for most combinations
there is none. A stream is stored in the namespace of the action, whatever its metadata says.
-/

namespace RegistryBench.ControlPlane

/-- The module that reports about actions. -/
def dispatchReporter : String := "regharness::fake::dispatch"

/-- What dispatching an action reports. -/
def dispatchEvent (action : Action) : Log.Event :=
  .debug dispatchReporter "dispatching action"
    [("verb", action.verb.name), ("resource", action.resource.name),
      ("subresource", action.subresource), ("namespace", action.ns), ("name", action.name)]

/-- A stream in another namespace. -/
def relocate (stream : ImageStream) (ns : String) : ImageStream :=
  { stream with metadata.ns := ns }

/-- Serve an action. -/
def route (now : Timestamp) (action : Action) : Service Outcome :=
  match action.verb, action.resource, Subresource.ofText? action.subresource with
  | .create, .image, some .itself =>
    match action.object with
    | some (.image image) => .image <$> createImage image
    | _ => throw action.mismatch
  | .get, .image, some .itself => .image <$> getImage action.name
  | .list, .image, some .itself => .images <$> listImages action.ns
  | .update, .image, some .itself =>
    match action.object with
    | some (.image image) => .image <$> updateImage image
    | _ => throw action.mismatch
  | .create, .imageStream, some .itself =>
    match action.object with
    | some (.stream stream) => .stream <$> createStream now (relocate stream action.ns)
    | _ => throw action.mismatch
  | .get, .imageStream, some .itself => .stream <$> getStream ⟨action.ns, action.name⟩
  | .list, .imageStream, some .itself => .streams <$> listStreams action.ns
  | .update, .imageStream, some .itself =>
    match action.object with
    | some (.stream stream) => .stream <$> updateStream (relocate stream action.ns)
    | _ => throw action.mismatch
  | .get, .imageStream, some .layers => .layers <$> getLayers ⟨action.ns, action.name⟩
  | .get, .imageStream, some .secrets => .secrets <$> getSecrets ⟨action.ns, action.name⟩
  | .create, .imageStreamMapping, some .itself =>
    match action.object with
    | some (.mapping mapping) => .mapping <$> createMapping now action.ns mapping
    | _ => throw action.mismatch
  | .create, .imageStreamTag, some .itself =>
    match action.object with
    | some (.tag request) => .tag <$> createTag now action.ns request
    | _ => throw action.mismatch
  | .get, .imageStreamImage, some .itself => .streamImage <$> getStreamImage action.ns action.name
  | _, _, _ => throw (.notImplemented action.verb action.resource action.subresource)

/-- Report an action and serve it. -/
def dispatch (now : Timestamp) (action : Action) : Service Outcome := do
  report (dispatchEvent action)
  route now action

/-! ### Operations -/

/-- What a client may do with a control plane: call a service or dispatch an action. -/
inductive Operation where
  /-- Store a new image. -/
  | createImage (image : Image)
  /-- Show an image. -/
  | getImage (name : String)
  /-- Show images. -/
  | listImages (ns : String)
  /-- Replace an image. -/
  | updateImage (image : Image)
  /-- Store a new stream. -/
  | createStream (stream : ImageStream)
  /-- Show a stream. -/
  | getStream (key : StreamKey)
  /-- Show streams. -/
  | listStreams (ns : String)
  /-- Replace a stream. -/
  | updateStream (stream : ImageStream)
  /-- Show the secrets of a stream. -/
  | getSecrets (key : StreamKey)
  /-- Show the layers view of a stream. -/
  | getLayers (key : StreamKey)
  /-- Show an image seen through a stream. -/
  | getStreamImage (ns name : String)
  /-- Point a tag at an image. -/
  | createMapping (ns : String) (mapping : ImageStreamMapping)
  /-- Add a tag to a stream. -/
  | createTag (ns : String) (request : ImageStreamTag)
  /-- Dispatch an action. -/
  | dispatch (action : Action)

/-- Do an operation. -/
def perform (now : Timestamp) : Operation → Service Outcome
  | .createImage image => .image <$> createImage image
  | .getImage name => .image <$> getImage name
  | .listImages ns => .images <$> listImages ns
  | .updateImage image => .image <$> updateImage image
  | .createStream stream => .stream <$> createStream now stream
  | .getStream key => .stream <$> getStream key
  | .listStreams ns => .streams <$> listStreams ns
  | .updateStream stream => .stream <$> updateStream stream
  | .getSecrets key => .secrets <$> getSecrets key
  | .getLayers key => .layers <$> getLayers key
  | .getStreamImage ns name => .streamImage <$> getStreamImage ns name
  | .createMapping ns mapping => .mapping <$> createMapping now ns mapping
  | .createTag ns request => .tag <$> createTag now ns request
  | .dispatch action => dispatch now action

/-- The control plane after some operations, each with the time at which it is done. -/
def after (c : ControlPlane) (operations : List (Timestamp × Operation)) : ControlPlane :=
  operations.foldl (fun c (now, operation) => (c.serve (perform now operation)).2) c

end RegistryBench.ControlPlane
