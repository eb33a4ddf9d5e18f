/-!
# Kinds of resources and requests

The resources that the control plane serves and the verbs of requests, with the names they have in
requests and messages.
-/

namespace RegistryBench

/-- A kind of resource. -/
inductive Resource where
  /-- Images. -/
  | image
  /-- Image streams. -/
  | imageStream
  /-- Requests to point a tag at an image. -/
  | imageStreamMapping
  /-- Tags of streams. -/
  | imageStreamTag
  /-- Images seen through streams. -/
  | imageStreamImage
deriving DecidableEq

/-- The name of a kind of resource. -/
def Resource.name : Resource → String
  | image => "images"
  | imageStream => "imagestreams"
  | imageStreamMapping => "imagestreammappings"
  | imageStreamTag => "imagestreamtags"
  | imageStreamImage => "imagestreamimages"

/-- What a request asks to do. -/
inductive Verb where
  /-- Store a new object. -/
  | create
  /-- Show one object. -/
  | get
  /-- Show all objects. -/
  | list
  /-- Replace a stored object. -/
  | update
deriving DecidableEq

/-- The name of a verb. -/
def Verb.name : Verb → String
  | create => "create"
  | get => "get"
  | list => "list"
  | update => "update"

end RegistryBench
