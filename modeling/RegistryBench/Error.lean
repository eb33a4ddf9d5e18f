import RegistryBench.Manifest.Payload
import RegistryBench.Resource.Kind
import RegistryBench.Settings.Duration
import RegistryBench.Storage.Backend

/-!
# Errors

Why an operation of the bench fails, by kind. Faults of digests, payloads, storage and durations
have types of their own and are causes here.
-/

namespace RegistryBench

/-- Why a request cannot be understood. -/
inductive RequestFault where
  /-- The manifest payload of an image cannot be read. -/
  | payload (image : String) (fault : Payload.Fault)
  /-- The manifest payload of an image is no list although its media type says so. -/
  | notAnIndex (image mediaType : String)
  /-- The config payload of an image cannot be read. -/
  | config (image : String)
  /-- A name joins no stream and tag. -/
  | tagName (name : String)
  /-- A name joins no stream and image id. -/
  | streamImageName (name : String)
  /-- A request carries an object of another kind. -/
  | wrongObject (verb : Verb) (resource given : Resource)
  /-- A request lacks its object. -/
  | noObject (verb : Verb) (resource : Resource)
  /-- A payload is not UTF-8. -/
  | notText (what digest : String)
  /-- A URL cannot stand in a header. -/
  | headerValue (header url : String)
deriving DecidableEq

/-- The text of a fault. -/
def RequestFault.message : RequestFault → String
  | payload image fault => "image " ++ image ++ ": " ++ fault.message
  | notAnIndex image mediaType =>
    "image " ++ image ++ ": " ++ mediaType ++ " payload is not a manifest list"
  | config image => "image " ++ image ++ " config: " ++ Json.unreadable
  | tagName name =>
    Resource.imageStreamTag.name ++ " name " ++ Text.quote name ++ " must be <stream>:<tag>"
  | streamImageName name =>
    Resource.imageStreamImage.name ++ " name " ++ Text.quote name ++ " must be <stream>@<id>"
  | wrongObject verb resource given =>
    verb.name ++ " " ++ resource.name ++ " expects a matching object, got " ++ given.name
  | noObject verb resource => verb.name ++ " " ++ resource.name ++ " requires an object"
  | notText what digest => what ++ " of " ++ digest ++ " is not UTF-8: <utf8>"
  | headerValue header url =>
    header ++ " value " ++ Text.quote url ++ ": failed to parse header value"

/-- Why an operation fails. -/
inductive Error where
  /-- A resource of that name is stored already. -/
  | alreadyExists (resource : Resource) (name : String)
  /-- No resource of that name is stored. -/
  | notFound (resource : Resource) (name : String)
  /-- The request cannot be understood. -/
  | badRequest (fault : RequestFault)
  /-- There is no way to serve the request. -/
  | notImplemented (verb : Verb) (resource : Resource) (subresource : String)
  /-- A request would visit a URL for the second time. -/
  | loopDetected (url : String)
  /-- A wait was cancelled while this path was still to be written. -/
  | cancelled (path : String)
  /-- A wait could not find out about a path. -/
  | stat (path : String) (source : Storage.Fault)
  /-- A setting is no duration. -/
  | setting (key raw : String) (fault : Duration.Fault)
deriving DecidableEq

namespace Error

/-- The text of an error. -/
def message : Error → String
  | alreadyExists resource name => resource.name ++ " " ++ Text.quote name ++ " already exists"
  | notFound resource name => resource.name ++ " " ++ Text.quote name ++ " not found"
  | badRequest fault => "bad request: " ++ fault.message
  | notImplemented verb resource subresource =>
    verb.name ++ " on " ++ resource.name ++ " (subresource " ++ Text.quote subresource ++
      ") is not implemented"
  | loopDetected url => "request to " ++ Text.quote url ++ " is denied because a loop is detected"
  | cancelled path => "cancelled while waiting for " ++ Text.quote path
  | stat path source => "stat " ++ Text.quote path ++ ": " ++ source.message
  | setting key raw fault =>
    "Configuration error: " ++ key ++ "=" ++ Text.quote raw ++ ": " ++ fault.message

/-- Whether an error says that a resource is stored already. -/
def isAlreadyExists : Error → Bool
  | alreadyExists .. => true
  | _ => false

/-- Whether an error says that a resource is not stored. -/
def isNotFound : Error → Bool
  | notFound .. => true
  | _ => false

end Error

end RegistryBench
