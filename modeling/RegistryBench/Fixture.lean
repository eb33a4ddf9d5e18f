import RegistryBench.ControlPlane.Derivation
import RegistryBench.Manifest.Builder
import RegistryBench.Resource.ImageStream

/-!
# Fixtures

Images for tests, named by the digest of their manifest as registries name them, and what such
images are made of.
-/

namespace RegistryBench.Fixture

/-- An image config for some platform, as a payload. -/
def imageConfig (architecture os : String) : Bytes :=
  ImageConfig.codec.toBytes
    { created := some "2020-01-01T00:00:00Z", architecture, os, config := none }

/-- The text of a payload of the manifest with some digest. -/
def payloadText (what digest : String) (payload : Bytes) : Except Error String :=
  match Text.ofUtf8? payload with
  | some text => .ok text
  | none => .error (.badRequest (.notText what digest))

/-- The image with some payloads in a repository, with derived metadata. -/
def imageFor (repository : String) (manifest config : Bytes) (mediaType : String) :
    Except Error Image := do
  let name := (Digest.ofContent manifest).toText
  let manifest ← payloadText "manifest" name manifest
  let config ← payloadText "config" name config
  let image : Image :=
    { metadata := .named "" name
      reference := repository ++ "@" ++ name
      manifest
      manifestMediaType := mediaType
      config }
  match image.derive with
  | (.ok _, image) => return image
  | (.error fault, _) => throw (.badRequest fault)

/-- The image that consists of some layers, with its config. -/
def imageOfLayers (repository : String) (layers : List Layer) : Except Error Image :=
  let config := imageConfig "amd64" "linux"
  let manifest := ManifestBuilder.ofSteps (.config config :: layers.map .layerBlob)
  imageFor repository manifest.toBytes config MediaType.dockerManifest

/-- The request to point a tag of a stream at an image. -/
def mapping (ns stream tag : String) (image : Image) : ImageStreamMapping :=
  ⟨.named ns stream, image, tag⟩

end RegistryBench.Fixture
