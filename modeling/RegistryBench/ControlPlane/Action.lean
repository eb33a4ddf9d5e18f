import RegistryBench.Error
import RegistryBench.Resource.ImageStream

/-!
# Actions

A request to the control plane as data: what to do with which resource, and the object it
concerns. An action about an object takes its namespace and name from the object, and may then be
redirected to another namespace or to a subresource.
-/

namespace RegistryBench

/-- An object that a request carries. -/
inductive Object where
  /-- An image. -/
  | image (image : Image)
  /-- A stream. -/
  | stream (stream : ImageStream)
  /-- A request to point a tag at an image. -/
  | mapping (mapping : ImageStreamMapping)
  /-- A tag of a stream. -/
  | tag (tag : ImageStreamTag)

namespace Object

/-- The kind of an object. -/
def resource : Object → Resource
  | image _ => .image
  | stream _ => .imageStream
  | mapping _ => .imageStreamMapping
  | tag _ => .imageStreamTag

/-- The metadata of an object. -/
def metadata : Object → ObjectMeta
  | image o => o.metadata
  | stream o => o.metadata
  | mapping o => o.metadata
  | tag o => o.metadata

end Object

/-- A request. -/
structure Action where
  /-- What to do. -/
  verb : Verb
  /-- The kind of resource. -/
  resource : Resource
  /-- A part of the resource, or nothing. -/
  subresource : String := ""
  /-- The namespace, or nothing. -/
  ns : String := ""
  /-- The name, or nothing. -/
  name : String := ""
  /-- The object. -/
  object : Option Object := none

namespace Action

/-- Show one object. -/
def get (resource : Resource) (ns name : String) : Action :=
  { verb := .get, resource, ns, name }

/-- Show all objects in a namespace. -/
def list (resource : Resource) (ns : String) : Action :=
  { verb := .list, resource, ns }

/-- Do something with an object. -/
def withObject (verb : Verb) (object : Object) : Action :=
  { verb, resource := object.resource, ns := object.metadata.ns, name := object.metadata.name,
    object := some object }

/-- Store a new object. -/
def create (object : Object) : Action :=
  withObject .create object

/-- Replace a stored object. -/
def update (object : Object) : Action :=
  withObject .update object

/-- The action on a part of its resource. -/
def onSubresource (action : Action) (subresource : String) : Action :=
  { action with subresource }

/-- The action in another namespace. -/
def inNamespace (action : Action) (ns : String) : Action :=
  { action with ns }

/-- The error of an action whose object is missing or of the wrong kind. -/
def mismatch (action : Action) : Error :=
  match action.object with
  | some object => .badRequest (.wrongObject action.verb action.resource object.resource)
  | none => .badRequest (.noObject action.verb action.resource)

end Action

/-- The parts of a resource that can be asked for. -/
inductive Subresource where
  /-- The resource itself. -/
  | itself
  /-- The layers view of a stream. -/
  | layers
  /-- The secrets of a stream. -/
  | secrets
deriving DecidableEq

/-- The part of a resource that a text names. -/
def Subresource.ofText? (text : String) : Option Subresource :=
  if text = "" then some itself
  else if text = "layers" then some layers
  else if text = "secrets" then some secrets
  else none

/-- What an action answers. -/
inductive Outcome where
  /-- An image. -/
  | image (image : Image)
  /-- Several images. -/
  | images (images : List Image)
  /-- A stream. -/
  | stream (stream : ImageStream)
  /-- Several streams. -/
  | streams (streams : List ImageStream)
  /-- The layers view of a stream. -/
  | layers (layers : StreamLayers)
  /-- The secrets of a stream. -/
  | secrets (secrets : SecretList)
  /-- A request to point a tag at an image. -/
  | mapping (mapping : ImageStreamMapping)
  /-- A tag of a stream. -/
  | tag (tag : ImageStreamTag)
  /-- An image seen through a stream. -/
  | streamImage (streamImage : ImageStreamImage)

end RegistryBench
