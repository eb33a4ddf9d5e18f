import RegistryBench.Error
import RegistryBench.Resource.Image

/-!
# Derivation of image metadata

What clients read about an image is derived from its manifest and config payloads: the layers,
the digest of the config, the size, and what the config says. What an image has already is kept.
-/

namespace RegistryBench

/-- The layer that a descriptor of a manifest describes. -/
def ImageLayer.ofDescriptor (d : Descriptor) : ImageLayer :=
  ⟨d.digest, d.size, d.mediaType⟩

/-- What containers run, as data. -/
def ContainerConfig.document (c : ContainerConfig) : Document :=
  .object [("Cmd", .list (c.cmd.map .text)), ("Env", .list (c.env.map .text)),
    ("WorkingDir", .text c.workingDir)]

namespace DockerImageMetadata

/-- Fill in the digest of the config if it is not known, and the size. -/
def fillFromManifest (known : DockerImageMetadata) (manifest : Manifest) : DockerImageMetadata :=
  { known with
    id := if known.id = "" then manifest.config.digest else known.id
    size := manifest.size }

/-- Fill in what is not known and the config says. -/
def fillFromConfig (known : DockerImageMetadata) (config : ImageConfig) : DockerImageMetadata :=
  { known with
    created := known.created.or config.created
    architecture := if known.architecture = "" then config.architecture else known.architecture
    os := if known.os = "" then config.os else known.os
    config := known.config.or (config.config.map ContainerConfig.document) }

end DockerImageMetadata

/-- How a derivation ended. -/
inductive Derivation where
  /-- There is nothing to derive from: no payload, or a manifest list. -/
  | skipped
  /-- The media type of the payload is not one of a manifest. -/
  | unsupported (mediaType : String)
  /-- Metadata was derived. -/
  | derived
deriving DecidableEq

namespace Image

/-- Fill in the layers if there are none. -/
def fillLayers (image : Image) (manifest : Manifest) : Image :=
  { image with
    layers := if image.layers = [] then manifest.layers.map .ofDescriptor else image.layers }

/-- Derive metadata from a manifest that was read. A config that cannot be read is found when the
layers have been filled in and the old metadata was taken out. -/
def deriveFrom (image : Image) (manifest : Manifest) : Except RequestFault Derivation × Image :=
  let known := (image.dockerMetadata.getD {}).fillFromManifest manifest
  let image := image.fillLayers manifest
  if image.config = "" then
    (.ok .derived, { image with dockerMetadata := some known })
  else
    match ImageConfig.codec.ofBytes? (Text.utf8 image.config) with
    | none => (.error (.config image.name), { image with dockerMetadata := none })
    | some config =>
      (.ok .derived, { image with dockerMetadata := some (known.fillFromConfig config) })

/-- Derive metadata from the payloads of an image. The image is returned as it is left behind,
also when that fails. -/
def derive (image : Image) : Except RequestFault Derivation × Image :=
  if image.manifest = "" ∨ image.isManifestList then (.ok .skipped, image)
  else
    match Payload.parse image.effectiveMediaType (Text.utf8 image.manifest) with
    | .ok (.image manifest) => image.deriveFrom manifest
    | .ok (.index _) => (.ok (.unsupported image.effectiveMediaType), image)
    | .error (.unsupported mediaType) => (.ok (.unsupported mediaType), image)
    | .error fault => (.error (.payload image.name fault), image)

/-- Deriving metadata leaves the name as it is. -/
theorem name_derive (image : Image) : image.derive.2.name = image.name := by
  simp only [derive, deriveFrom]
  split
  · rfl
  · split
    · split
      · rfl
      · split
        · rfl
        · rfl
    · rfl
    · rfl
    · rfl

end Image

namespace Derivation

/-- The module that reports about derivations. -/
def reporter : String := "regharness::fake::metadata"

/-- What the derivation for an image of some name reports. -/
def events (name : String) : Derivation → List Log.Event
  | unsupported mediaType =>
    [.debug reporter "no metadata to derive" [("image", name), ("media_type", mediaType)]]
  | _ => []

end Derivation

end RegistryBench
