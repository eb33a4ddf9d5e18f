import RegistryBench.Layer
import RegistryBench.Manifest.Payload

/-!
# Builders of manifests

A manifest or a list of manifests is put together step by step. The builder of a manifest starts
with the docker media types; turning it to OCI changes the types it gives to what comes later, and
to the manifest itself.
-/

namespace RegistryBench

/-- The descriptor of some content. -/
def Descriptor.ofContent (mediaType : String) (content : Bytes) : Descriptor :=
  { mediaType, digest := (Digest.ofContent content).toText, size := content.length }

/-- A manifest that is being put together. -/
structure ManifestBuilder where
  /-- The media type of the manifest. -/
  mediaType : String := MediaType.dockerManifest
  /-- The media type that configs get. -/
  configMediaType : String := MediaType.dockerConfig
  /-- The media type that layers get. -/
  layerMediaType : String := MediaType.dockerLayer
  /-- The config, when there is one. -/
  config : Option Descriptor := none
  /-- The layers so far. -/
  layers : List Descriptor := []
deriving DecidableEq

namespace ManifestBuilder

/-- A step in putting a manifest together. -/
inductive Step where
  /-- Use the OCI media types from now on. -/
  | oci
  /-- Set the config by its content. -/
  | config (content : Bytes)
  /-- Set the config by its descriptor. -/
  | configDescriptor (descriptor : Descriptor)
  /-- Add a layer by its descriptor. -/
  | layer (descriptor : Descriptor)
  /-- Add a layer by its blob. -/
  | layerBlob (blob : Layer)

/-- Take a step. -/
def step (builder : ManifestBuilder) : Step → ManifestBuilder
  | .oci =>
    { builder with
      mediaType := MediaType.ociManifest
      configMediaType := MediaType.ociConfig
      layerMediaType := MediaType.ociLayer }
  | .config content =>
    { builder with config := some (.ofContent builder.configMediaType content) }
  | .configDescriptor descriptor => { builder with config := some descriptor }
  | .layer descriptor => { builder with layers := builder.layers ++ [descriptor] }
  | .layerBlob blob =>
    let descriptor := { blob.descriptor with mediaType := builder.layerMediaType }
    { builder with layers := builder.layers ++ [descriptor] }

/-- The config of a manifest that was given none: an empty object. -/
def emptyConfig : Bytes := Text.utf8 "\x7b\x7d"

/-- The manifest. -/
def build (builder : ManifestBuilder) : Manifest where
  schemaVersion := 2
  mediaType := builder.mediaType
  config := builder.config.getD (.ofContent builder.configMediaType emptyConfig)
  layers := builder.layers

/-- The manifest that some steps put together. -/
def ofSteps (steps : List Step) : Manifest :=
  (steps.foldl step {}).build

end ManifestBuilder

/-- A list of manifests that is being put together. -/
structure ManifestListBuilder where
  /-- The media type of the list. -/
  mediaType : String := MediaType.dockerManifestList
  /-- The manifests so far. -/
  manifests : List Descriptor := []
deriving DecidableEq

namespace ManifestListBuilder

/-- A step in putting a list of manifests together. -/
inductive Step where
  /-- Make it an OCI image index. -/
  | oci
  /-- Add a manifest by its payload. -/
  | manifest (mediaType : String) (payload : Bytes) (architecture os : String)
  /-- Add a manifest by its descriptor. -/
  | entry (descriptor : Descriptor)

/-- Take a step. -/
def step (builder : ManifestListBuilder) : Step → ManifestListBuilder
  | .oci => { builder with mediaType := MediaType.ociIndex }
  | .manifest mediaType payload architecture os =>
    let platform : Platform := ⟨architecture, os, none⟩
    let descriptor := { Descriptor.ofContent mediaType payload with platform := some platform }
    { builder with manifests := builder.manifests ++ [descriptor] }
  | .entry descriptor => { builder with manifests := builder.manifests ++ [descriptor] }

/-- The list of manifests. -/
def build (builder : ManifestListBuilder) : ManifestList where
  schemaVersion := 2
  mediaType := builder.mediaType
  manifests := builder.manifests

/-- The list of manifests that some steps put together. -/
def ofSteps (steps : List Step) : ManifestList :=
  (steps.foldl step {}).build

end ManifestListBuilder

end RegistryBench
