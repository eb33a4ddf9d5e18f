import RegistryBench.Json.Document
import RegistryBench.Manifest.MediaType
import RegistryBench.Resource.Metadata

/-!
# Images

An image known to the control plane: its payloads as text, and what was derived from them.
-/

namespace RegistryBench

/-- Codec of free-form documents. -/
def Document.codec : Codec Document :=
  ⟨Document.read?, Document.toJson⟩

/-- A layer of an image. -/
structure ImageLayer where
  /-- The digest of the layer. -/
  name : String
  /-- The size of the layer in octets. -/
  size : Nat
  /-- The media type of the layer. -/
  mediaType : String
deriving DecidableEq, Inhabited

/-- How layers are written and read. -/
def ImageLayer.codec : Codec ImageLayer :=
  Fields.codec
    (.cons (.required "name" .text) <|
      .cons (.required "size" .natural64) <|
      .last (.required "mediaType" .text))
    (fun (name, size, mediaType) => ⟨name, size, mediaType⟩)
    (fun l => (l.name, l.size, l.mediaType))

/-- A manifest that a manifest list refers to. -/
structure ImageManifest where
  /-- The digest of the manifest. -/
  digest : String
  /-- The media type of the manifest. -/
  mediaType : String
  /-- The size of the manifest in octets. -/
  manifestSize : Nat
  /-- The processor architecture, or nothing. -/
  architecture : String := ""
  /-- The operating system, or nothing. -/
  os : String := ""
deriving DecidableEq, Inhabited

/-- How references to manifests are written and read. -/
def ImageManifest.codec : Codec ImageManifest :=
  Fields.codec
    (.cons (.required "digest" .text) <|
      .cons (.required "mediaType" .text) <|
      .cons (.required "manifestSize" .natural64) <|
      .cons (.defaulted "architecture" .text "") <|
      .last (.defaulted "os" .text ""))
    (fun (digest, mediaType, manifestSize, architecture, os) =>
      ⟨digest, mediaType, manifestSize, architecture, os⟩)
    (fun m => (m.digest, m.mediaType, m.manifestSize, m.architecture, m.os))

/-- What clients read about an image. -/
structure DockerImageMetadata where
  /-- The digest of the config, or nothing when it is not known. -/
  id : String := ""
  /-- When the image was made. -/
  created : Option String := none
  /-- The processor architecture, or nothing. -/
  architecture : String := ""
  /-- The operating system, or nothing. -/
  os : String := ""
  /-- The size of config and layers together. -/
  size : Nat := 0
  /-- What containers of the image run, as data. -/
  config : Option Document := none

/-- How image metadata is written and read. -/
def DockerImageMetadata.codec : Codec DockerImageMetadata :=
  Fields.codec
    (.cons (.defaulted "Id" .text "") <|
      .cons (.optional "Created" .text) <|
      .cons (.defaulted "Architecture" .text "") <|
      .cons (.defaulted "Os" .text "") <|
      .cons (.defaulted "Size" .natural64 0) <|
      .last (.optional "Config" Document.codec))
    (fun (id, created, architecture, os, size, config) =>
      ⟨id, created, architecture, os, size, config⟩)
    (fun m => (m.id, m.created, m.architecture, m.os, m.size, m.config))

/-- An image. -/
structure Image where
  /-- Its metadata; the name is the digest of the manifest. -/
  metadata : ObjectMeta := {}
  /-- Where the image can be pulled from. -/
  reference : String := ""
  /-- The manifest payload. -/
  manifest : String := ""
  /-- The media type of the manifest payload, or nothing when it is not known. -/
  manifestMediaType : String := ""
  /-- The config payload. -/
  config : String := ""
  /-- The layers, in the order of the manifest. -/
  layers : List ImageLayer := []
  /-- The manifests of a manifest list. -/
  manifests : List ImageManifest := []
  /-- What clients read about the image. -/
  dockerMetadata : Option DockerImageMetadata := none

namespace Image

instance : Inhabited Image := ⟨{}⟩

/-- How images are written and read. -/
def codec : Codec Image :=
  Fields.codec
    (.cons (.required "metadata" ObjectMeta.codec) <|
      .cons (.defaulted "dockerImageReference" .text "") <|
      .cons (.defaulted "dockerImageManifest" .text "") <|
      .cons (.defaulted "dockerImageManifestMediaType" .text "") <|
      .cons (.defaulted "dockerImageConfig" .text "") <|
      .cons (.defaulted "dockerImageLayers" ImageLayer.codec.list []) <|
      .cons (.list "dockerImageManifests" ImageManifest.codec) <|
      .last (.optional "dockerImageMetadata" DockerImageMetadata.codec))
    (fun (metadata, reference, manifest, manifestMediaType, config, layers, manifests,
        dockerMetadata) =>
      ⟨metadata, reference, manifest, manifestMediaType, config, layers, manifests,
        dockerMetadata⟩)
    (fun i => (i.metadata, i.reference, i.manifest, i.manifestMediaType, i.config, i.layers,
      i.manifests, i.dockerMetadata))

/-- The name of an image. -/
def name (image : Image) : String :=
  image.metadata.name

/-- The media type of the manifest payload, which is docker schema 2 when it is not given. -/
def effectiveMediaType (image : Image) : String :=
  if image.manifestMediaType = "" then MediaType.dockerManifest else image.manifestMediaType

/-- Whether the manifest payload is declared to be a list of manifests. -/
def isManifestList (image : Image) : Bool :=
  MediaType.isIndex image.manifestMediaType

/-- The digest of the config, when it is known. -/
def metadataId? (image : Image) : Option String :=
  (image.dockerMetadata.map DockerImageMetadata.id).filter (· ≠ "")

/-- The digests of the manifests of a manifest list. -/
def subManifests (image : Image) : List String :=
  image.manifests.map ImageManifest.digest

end Image

end RegistryBench
