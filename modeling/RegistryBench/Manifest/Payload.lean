import RegistryBench.Manifest.Basic
import RegistryBench.Manifest.MediaType

/-!
# Manifest payloads

A payload together with its media type is the manifest of an image or a list of manifests. The
media type alone decides which of the two is read.
-/

namespace RegistryBench

/-- Stands in a message for the account of what is wrong with a JSON text, which is not kept. -/
def Json.unreadable : String := "<json>"

/-- A payload that has been read. -/
inductive Payload where
  /-- The manifest of one image. -/
  | image (manifest : Manifest)
  /-- A list of manifests. -/
  | index (list : ManifestList)
deriving DecidableEq

namespace Payload

/-- Why a payload is not read. -/
inductive Fault where
  /-- It is no document of its media type. -/
  | invalid (mediaType : String)
  /-- Its media type is not one of a manifest or an index. -/
  | unsupported (mediaType : String)
deriving DecidableEq

/-- The text of a fault. -/
def Fault.message : Fault → String
  | invalid mediaType => "manifest error: invalid " ++ mediaType ++ ": " ++ Json.unreadable
  | unsupported mediaType => "unsupported media type: " ++ mediaType

/-- Read a payload of some media type. -/
def parse (mediaType : String) (octets : Bytes) : Except Fault Payload :=
  if MediaType.isIndex mediaType then
    match ManifestList.codec.ofBytes? octets with
    | some list => .ok (.index list)
    | none => .error (.invalid mediaType)
  else if MediaType.isManifest mediaType then
    match Manifest.codec.ofBytes? octets with
    | some manifest => .ok (.image manifest)
    | none => .error (.invalid mediaType)
  else .error (.unsupported mediaType)

/-- The blobs a payload refers to: config and layers of an image, or the manifests of a list. -/
def references : Payload → List Descriptor
  | image manifest => manifest.config :: manifest.layers
  | index list => list.manifests

/-- The text of a payload, indented. -/
def toBytes : Payload → Bytes
  | image manifest => manifest.toBytes
  | index list => list.toBytes

end Payload

end RegistryBench
