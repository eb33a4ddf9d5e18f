import RegistryBench.Json.Codec

/-!
# Manifests

The documents a registry stores about images: the manifest of an image with its config and layers,
the list of manifests for several platforms, and the image config. Each has a codec.
-/

namespace RegistryBench

/-- A platform that a manifest is for. -/
structure Platform where
  /-- The processor architecture. -/
  architecture : String
  /-- The operating system. -/
  os : String
  /-- A variant of the architecture. -/
  variant : Option String
deriving DecidableEq, Inhabited

/-- How platforms are written and read. -/
def Platform.codec : Codec Platform :=
  Fields.codec
    (.cons (.required "architecture" .text) <|
      .cons (.required "os" .text) <|
      .last (.optional "variant" .text))
    (fun (architecture, os, variant) => ⟨architecture, os, variant⟩)
    (fun p => (p.architecture, p.os, p.variant))

/-- A reference to a blob. -/
structure Descriptor where
  /-- The media type of the blob. -/
  mediaType : String
  /-- The digest of the blob. -/
  digest : String
  /-- The size of the blob in octets. -/
  size : Nat
  /-- The platform that the blob is for. -/
  platform : Option Platform := none
deriving DecidableEq, Inhabited

/-- How descriptors are written and read. -/
def Descriptor.codec : Codec Descriptor :=
  Fields.codec
    (.cons (.required "mediaType" .text) <|
      .cons (.required "digest" .text) <|
      .cons (.required "size" .natural64) <|
      .last (.optional "platform" Platform.codec))
    (fun (mediaType, digest, size, platform) => ⟨mediaType, digest, size, platform⟩)
    (fun d => (d.mediaType, d.digest, d.size, d.platform))

/-- The manifest of one image. -/
structure Manifest where
  /-- The version of the schema. -/
  schemaVersion : Nat
  /-- The media type the manifest claims, or nothing. -/
  mediaType : String
  /-- The config blob. -/
  config : Descriptor
  /-- The layer blobs, lowest first. -/
  layers : List Descriptor
deriving DecidableEq, Inhabited

namespace Manifest

/-- How manifests are written and read. -/
def codec : Codec Manifest :=
  Fields.codec
    (.cons (.required "schemaVersion" .natural32) <|
      .cons (.text "mediaType") <|
      .cons (.required "config" Descriptor.codec) <|
      .last (.required "layers" Descriptor.codec.list))
    (fun (schemaVersion, mediaType, config, layers) => ⟨schemaVersion, mediaType, config, layers⟩)
    (fun m => (m.schemaVersion, m.mediaType, m.config, m.layers))

/-- The text of a manifest, indented. -/
def toBytes (m : Manifest) : Bytes :=
  (codec.write m).indented

/-- The size of the image: config and layers together. -/
def size (m : Manifest) : Nat :=
  m.config.size + m.layers.foldr (fun layer sum => layer.size + sum) 0

end Manifest

/-- A list of manifests for several platforms. -/
structure ManifestList where
  /-- The version of the schema. -/
  schemaVersion : Nat
  /-- The media type the list claims, or nothing. -/
  mediaType : String
  /-- The manifests. -/
  manifests : List Descriptor
deriving DecidableEq, Inhabited

namespace ManifestList

/-- How manifest lists are written and read. -/
def codec : Codec ManifestList :=
  Fields.codec
    (.cons (.required "schemaVersion" .natural32) <|
      .cons (.text "mediaType") <|
      .last (.required "manifests" Descriptor.codec.list))
    (fun (schemaVersion, mediaType, manifests) => ⟨schemaVersion, mediaType, manifests⟩)
    (fun l => (l.schemaVersion, l.mediaType, l.manifests))

/-- The text of a manifest list, indented. -/
def toBytes (l : ManifestList) : Bytes :=
  (codec.write l).indented

end ManifestList

/-- What a container of an image runs. -/
structure ContainerConfig where
  /-- The environment. -/
  env : List String
  /-- The command. -/
  cmd : List String
  /-- The directory it runs in. -/
  workingDir : String
deriving DecidableEq, Inhabited

/-- How container configs are written and read. -/
def ContainerConfig.codec : Codec ContainerConfig :=
  Fields.codec
    (.cons (.defaulted "Env" (.list .text) []) <|
      .cons (.defaulted "Cmd" (.list .text) []) <|
      .last (.defaulted "WorkingDir" .text ""))
    (fun (env, cmd, workingDir) => ⟨env, cmd, workingDir⟩)
    (fun c => (c.env, c.cmd, c.workingDir))

/-- The config of an image. -/
structure ImageConfig where
  /-- When the image was made. -/
  created : Option String
  /-- The processor architecture. -/
  architecture : String
  /-- The operating system. -/
  os : String
  /-- What its containers run. -/
  config : Option ContainerConfig
deriving DecidableEq, Inhabited

/-- How image configs are written and read. -/
def ImageConfig.codec : Codec ImageConfig :=
  Fields.codec
    (.cons (.optional "created" .text) <|
      .cons (.text "architecture") <|
      .cons (.text "os") <|
      .last (.optional "config" ContainerConfig.codec))
    (fun (created, architecture, os, config) => ⟨created, architecture, os, config⟩)
    (fun c => (c.created, c.architecture, c.os, c.config))

end RegistryBench
