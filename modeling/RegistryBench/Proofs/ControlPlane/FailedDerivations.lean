import RegistryBench.Proofs.ControlPlane.Derivation

/-!
# What failed derivations leave behind

A derivation fails when the manifest of an image cannot be read, or else its config
(`derive_eq_error_iff`). The manifest is read before anything is changed. The config is read when
the layers have been filled in and the metadata has been taken out, and nothing puts them back
(`Image.stripped`).

* `intact_of_failed_derivation_iff` says what a failed derivation leaves behind, and when that is
  the image as it was.
* `failed_derivation_loses_metadata`: metadata that an image had is lost.
-/

namespace RegistryBench.Image

/-- The image with its layers filled in from a manifest and without its metadata. -/
def stripped (image : Image) (manifest : Manifest) : Image :=
  { image.fillLayers manifest with dockerMetadata := none }

/-- Stripping changes nothing where there is no metadata and there are no layers to fill in. -/
theorem stripped_eq_self_iff (image : Image) (manifest : Manifest) :
    image.stripped manifest = image ↔
      image.dockerMetadata = none ∧ (image.layers = [] → manifest.layers = []) := by
  constructor
  · intro h
    have hmetadata : (image.stripped manifest).dockerMetadata = image.dockerMetadata := by rw [h]
    have hlayers : (image.stripped manifest).layers = image.layers := by rw [h]
    refine ⟨hmetadata.symm, fun hnone => ?_⟩
    -- an image without layers has got those of the manifest
    simpa [stripped, fillLayers, hnone] using hlayers
  · rintro ⟨hmetadata, hlayers⟩
    have hfilled : (if image.layers = [] then manifest.layers.map .ofDescriptor else image.layers) =
        image.layers := by
      split
      next hnone => rw [hlayers hnone, hnone, List.map_nil]
      next => rfl
    rw [stripped, fillLayers, hfilled, ← hmetadata]

/-- A derivation fails when there is a manifest that cannot be read, or one with a config that
cannot be read. -/
theorem derive_eq_error_iff {image left : Image} {fault : RequestFault} :
    image.derive = (.error fault, left) ↔
      image.HasManifest ∧
        ((image.readManifest? = none ∧
            fault = .payload image.name (.invalid image.effectiveMediaType) ∧ left = image) ∨
          ∃ manifest, image.readManifest? = some manifest ∧ image.readConfig? = none ∧
            fault = .config image.name ∧ left = image.stripped manifest) := by
  by_cases hmanifest : image.HasManifest
  · rw [derive_of_hasManifest hmanifest]
    cases hread : image.readManifest? with
    | none => simp [hmanifest, eq_comm]
    | some manifest =>
      -- the layers have been filled in, and the metadata has been taken out
      cases hconfig : image.readConfig? with
      | none => simp [hmanifest, stripped, eq_comm]
      | some config? => simp
  · -- without a manifest there is nothing that could fail
    obtain ⟨outcome, hsame⟩ := derive_of_not_hasManifest hmanifest
    simp [hsame, hmanifest]

/-- A failed derivation changes the layers and the metadata at most. It leaves the image as it was
when the manifest cannot be read. When the config cannot be read, the metadata is gone and missing
layers are filled in, so the image is as it was only if it had no metadata, and had layers unless
the manifest has none. -/
theorem intact_of_failed_derivation_iff {image left : Image} {fault : RequestFault}
    (h : image.derive = (.error fault, left)) :
    left = { image with layers := left.layers, dockerMetadata := left.dockerMetadata } ∧
      (left = image ↔ ∀ manifest, image.readManifest? = some manifest →
        image.dockerMetadata = none ∧ (image.layers = [] → manifest.layers = [])) ∧
      ∀ manifest, image.readManifest? = some manifest →
        left.dockerMetadata = none ∧
          left.layers =
            if image.layers = [] then manifest.layers.map .ofDescriptor else image.layers := by
  obtain ⟨-, ⟨hread, -, rfl⟩ | ⟨manifest, hread, -, -, rfl⟩⟩ := derive_eq_error_iff.1 h
  · -- no manifest was read
    rw [hread]
    simp
  · -- the config was not
    refine ⟨rfl, ?_, fun other hother => ?_⟩
    · rw [stripped_eq_self_iff, hread]
      simp
    · obtain rfl : manifest = other := Option.some.inj (hread.symm.trans hother)
      exact ⟨rfl, rfl⟩

section BrokenConfig

/-- The manifest of an image with one layer. -/
def manifestOfOne : String :=
  "\x7b\"schemaVersion\":2," ++
    "\"config\":\x7b\"mediaType\":\"config\",\"digest\":\"sha256:config\",\"size\":7\x7d," ++
    "\"layers\":[\x7b\"mediaType\":\"layer\",\"digest\":\"sha256:layer\",\"size\":3\x7d]\x7d"

/-- An image of that manifest, with a config that is none. -/
def brokenConfig (layers : List ImageLayer) (known : Option DockerImageMetadata) : Image :=
  { metadata := { name := "sha256:image" }, manifest := manifestOfOne, config := "not json",
    layers, dockerMetadata := known }

/-- Whatever layers and metadata the image has, its config cannot be read. -/
theorem derive_brokenConfig (layers : List ImageLayer) (known : Option DockerImageMetadata) :
    (brokenConfig layers known).derive =
      (.error (.config "sha256:image"), (brokenConfig layers known).stripped
        ⟨2, "", ⟨"config", "sha256:config", 7, none⟩, [⟨"layer", "sha256:layer", 3, none⟩]⟩) := by
  have hconfig : ImageConfig.codec.ofBytes? (Text.utf8 "not json") = none := by decide +kernel
  have hunreadable : (brokenConfig layers known).readConfig? = none := by
    have hsome : (brokenConfig layers known).config ≠ "" := by simp [brokenConfig]
    rw [readConfig?, if_neg hsome]
    exact congrArg (Option.map some) hconfig
  have hread : Manifest.codec.ofBytes? (Text.utf8 manifestOfOne) = some
      ⟨2, "", ⟨"config", "sha256:config", 7, none⟩, [⟨"layer", "sha256:layer", 3, none⟩]⟩ := by
    decide +kernel
  have hsome : manifestOfOne ≠ "" := by decide
  exact derive_eq_error_iff.2 ⟨⟨hsome, rfl⟩, Or.inr ⟨_, hread, hunreadable, rfl, rfl⟩⟩

/-- With layers and without metadata, the image is left as it was. -/
theorem intact_of_failed_derivation_layered :
    let image := brokenConfig [⟨"sha256:layer", 3, "layer"⟩] none
    ∃ left, image.derive = (.error (.config "sha256:image"), left) ∧ left = image := by
  intro image
  have hderive := derive_brokenConfig [⟨"sha256:layer", 3, "layer"⟩] none
  obtain ⟨-, hintact, -⟩ := intact_of_failed_derivation_iff hderive
  exact ⟨_, hderive, hintact.2 fun manifest _ => ⟨rfl, fun hnone => absurd hnone (by decide)⟩⟩

/-- An image without layers that has metadata is left with a layer and without metadata. -/
theorem failed_derivation_loses_metadata :
    let image := brokenConfig [] (some { id := "sha256:explicit" })
    ∃ left, image.derive = (.error (.config "sha256:image"), left) ∧ left ≠ image ∧
      (image.metadataId? = some "sha256:explicit" ∧ left.metadataId? = none) ∧
      image.layers = [] ∧ left.layers = [⟨"sha256:layer", 3, "layer"⟩] := by
  intro image
  refine ⟨_, derive_brokenConfig [] (some { id := "sha256:explicit" }), fun heq => ?_, ⟨rfl, rfl⟩,
    rfl, rfl⟩
  exact absurd (congrArg metadataId? heq) (by decide)

end BrokenConfig

end RegistryBench.Image
