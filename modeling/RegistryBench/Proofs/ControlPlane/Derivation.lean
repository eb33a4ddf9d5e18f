import RegistryBench.ControlPlane.Derivation
import RegistryBench.Proofs.Manifest.Payloads

/-!
# What derivation leaves behind

Only an image with a payload that is declared to be the manifest of one image has anything derived
(`Image.HasManifest`). Then the manifest must be read, and the config when there is one
(`derive_of_hasManifest`). Filling in what is missing a second time changes nothing, so neither
does a second derivation (`derive_derive`).
-/

namespace RegistryBench

namespace DockerImageMetadata

/-- Fill in what a manifest and, when there is one, a config say. -/
def fill (known : DockerImageMetadata) (manifest : Manifest) (config? : Option ImageConfig) :
    DockerImageMetadata :=
  match config? with
  | none => known.fillFromManifest manifest
  | some config => (known.fillFromManifest manifest).fillFromConfig config

/-- The digest of the config comes from the manifest when it is not known. -/
theorem id_fill (known : DockerImageMetadata) (manifest : Manifest)
    (config? : Option ImageConfig) :
    (known.fill manifest config?).id =
      if known.id = "" then manifest.config.digest else known.id := by
  cases config? with
  | none => rfl
  | some config => rfl

/-- What a manifest has filled in is there for good, also when a config is read in between. -/
theorem fillFromManifest_filled (known : DockerImageMetadata) (manifest : Manifest)
    (config? : Option ImageConfig) :
    (known.fill manifest config?).fillFromManifest manifest = known.fill manifest config? := by
  -- a digest that was known is kept; otherwise it is that of the manifest, be that empty or not
  cases config? with
  | none =>
    by_cases hid : known.id = ""
    · simp [fill, fillFromManifest, hid]
    · simp [fill, fillFromManifest, hid]
  | some config =>
    by_cases hid : known.id = ""
    · simp [fill, fillFromManifest, fillFromConfig, hid]
    · simp [fill, fillFromManifest, fillFromConfig, hid]

/-- What a config has filled in is there for good. -/
theorem fillFromConfig_fillFromConfig (known : DockerImageMetadata) (config : ImageConfig) :
    (known.fillFromConfig config).fillFromConfig config = known.fillFromConfig config := by
  simp only [fillFromConfig, Option.or_assoc, Option.or_self]
  -- what is left are the two texts, which are empty when they are not known
  by_cases harchitecture : known.architecture = ""
  · by_cases hos : known.os = ""
    · simp [harchitecture, hos]
    · simp [harchitecture, hos]
  · by_cases hos : known.os = ""
    · simp [harchitecture, hos]
    · simp [harchitecture, hos]

/-- What is filled in once is not filled in again. -/
theorem fill_fill (known : DockerImageMetadata) (manifest : Manifest)
    (config? : Option ImageConfig) :
    (known.fill manifest config?).fill manifest config? = known.fill manifest config? := by
  cases config? with
  | none => exact fillFromManifest_filled known manifest none
  | some config =>
    show ((known.fill manifest (some config)).fillFromManifest manifest).fillFromConfig config = _
    rw [fillFromManifest_filled]
    exact fillFromConfig_fillFromConfig _ config

end DockerImageMetadata

namespace Image

/-- There is a payload, and it is declared to be the manifest of one image. -/
def HasManifest (image : Image) : Prop :=
  image.manifest ≠ "" ∧ MediaType.isManifest image.effectiveMediaType = true

/-- The manifest that the payload holds. -/
def readManifest? (image : Image) : Option Manifest :=
  Manifest.codec.ofBytes? (Text.utf8 image.manifest)

/-- The config, if the image has one; nothing at all when it has one that cannot be read. -/
def readConfig? (image : Image) : Option (Option ImageConfig) :=
  if image.config = "" then some none
  else (ImageConfig.codec.ofBytes? (Text.utf8 image.config)).map some

/-- The image with what is missing filled in from a manifest and a config. -/
def filled (image : Image) (manifest : Manifest) (config? : Option ImageConfig) : Image :=
  { image.fillLayers manifest with
    dockerMetadata := some ((image.dockerMetadata.getD {}).fill manifest config?) }

/-- What is filled in is there from then on. -/
theorem filled_filled (image : Image) (manifest : Manifest) (config? : Option ImageConfig) :
    (image.filled manifest config?).filled manifest config? = image.filled manifest config? := by
  by_cases hlayers : image.layers = []
  · simp [filled, fillLayers, hlayers, DockerImageMetadata.fill_fill]
  · simp [filled, fillLayers, hlayers, DockerImageMetadata.fill_fill]

/-- The manifest of one image is no manifest list. -/
theorem HasManifest.isManifestList_eq_false {image : Image} (h : image.HasManifest) :
    image.isManifestList = false := by
  by_cases hempty : image.manifestMediaType = ""
  · rw [isManifestList, hempty]
    decide
  · have htype := h.2
    rw [effectiveMediaType, if_neg hempty] at htype
    exact MediaType.isIndex_eq_false_of_isManifest htype

/-- Without a manifest of one image there is nothing to derive from. -/
theorem derive_of_not_hasManifest {image : Image} (h : ¬ image.HasManifest) :
    ∃ outcome, image.derive = (.ok outcome, image) := by
  rw [derive]
  split
  next => exact ⟨_, rfl⟩
  next hnone =>
    rw [not_or] at hnone
    -- the media type is given, and it is neither that of a list nor that of a manifest
    have hmanifest : ¬ MediaType.isManifest image.effectiveMediaType = true :=
      fun htype => h ⟨hnone.1, htype⟩
    have hindex : ¬ MediaType.isIndex image.effectiveMediaType = true := by
      rw [effectiveMediaType]
      split
      next => decide
      next => exact hnone.2
    rw [Payload.parse_of_other hindex hmanifest]
    exact ⟨_, rfl⟩

/-- With a manifest of one image, the manifest is read and then the config. -/
theorem derive_of_hasManifest {image : Image} (h : image.HasManifest) :
    image.derive =
      match image.readManifest? with
      | none => (.error (.payload image.name (.invalid image.effectiveMediaType)), image)
      | some manifest =>
        match image.readConfig? with
        | none =>
          (.error (.config image.name), { image.fillLayers manifest with dockerMetadata := none })
        | some config? => (.ok .derived, image.filled manifest config?) := by
  have hsome : ¬ (image.manifest = "" ∨ image.isManifestList = true) :=
    not_or.2 ⟨h.1, Bool.eq_false_iff.1 h.isManifestList_eq_false⟩
  rw [derive, if_neg hsome, Payload.parse_of_isManifest h.2, readManifest?]
  cases Manifest.codec.ofBytes? (Text.utf8 image.manifest) with
  | none => rfl
  | some manifest =>
    -- the layers are filled in before the config is read
    simp only [deriveFrom, readConfig?]
    by_cases hconfig : image.config = ""
    · rw [if_pos hconfig]
      simp [fillLayers, hconfig, filled, DockerImageMetadata.fill]
    · rw [if_neg hconfig]
      cases hread : ImageConfig.codec.ofBytes? (Text.utf8 image.config) with
      | none => simp [fillLayers, hconfig, hread, name]
      | some config => simp [fillLayers, hconfig, hread, filled, DockerImageMetadata.fill]

/-- A derivation that succeeds leaves the image as it is, for want of a manifest, or fills in what
the manifest and the config say. -/
theorem derive_eq_ok_cases {image derived : Image} {outcome : Derivation}
    (h : image.derive = (.ok outcome, derived)) :
    (¬ image.HasManifest ∧ derived = image) ∨
      ∃ manifest config?, image.HasManifest ∧ image.readManifest? = some manifest ∧
        image.readConfig? = some config? ∧ outcome = .derived ∧
        derived = image.filled manifest config? := by
  by_cases hmanifest : image.HasManifest
  · refine Or.inr ?_
    rw [derive_of_hasManifest hmanifest] at h
    cases hread : image.readManifest? with
    | none =>
      rw [hread] at h
      cases h
    | some manifest =>
      cases hconfig : image.readConfig? with
      | none =>
        rw [hread, hconfig] at h
        cases h
      | some config? =>
        rw [hread, hconfig] at h
        cases h
        exact ⟨manifest, config?, hmanifest, rfl, rfl, rfl, rfl⟩
  · obtain ⟨outcome', hsame⟩ := derive_of_not_hasManifest hmanifest
    rw [hsame] at h
    cases h
    exact Or.inl ⟨hmanifest, rfl⟩

/-- A derivation succeeds when what there is to read can be read. -/
theorem exists_derive_eq_ok_iff (image : Image) :
    (∃ outcome derived, image.derive = (.ok outcome, derived)) ↔
      (image.HasManifest →
        (∃ manifest, image.readManifest? = some manifest) ∧
          ∃ config?, image.readConfig? = some config?) := by
  constructor
  · rintro ⟨outcome, derived, hderive⟩ hmanifest
    obtain ⟨hnone, -⟩ | ⟨manifest, config?, -, hread, hconfig, -⟩ := derive_eq_ok_cases hderive
    · exact absurd hmanifest hnone
    · exact ⟨⟨manifest, hread⟩, config?, hconfig⟩
  · -- without a manifest nothing is read, so the image itself is the result
    intro hreadable
    by_cases hmanifest : image.HasManifest
    · obtain ⟨⟨manifest, hread⟩, config?, hconfig⟩ := hreadable hmanifest
      refine ⟨.derived, image.filled manifest config?, ?_⟩
      rw [derive_of_hasManifest hmanifest, hread, hconfig]
    · obtain ⟨outcome, hsame⟩ := derive_of_not_hasManifest hmanifest
      exact ⟨outcome, image, hsame⟩

/-- Derivation changes the layers and the metadata at most. -/
theorem eq_of_derive {image derived : Image} {outcome : Derivation}
    (h : image.derive = (.ok outcome, derived)) :
    derived =
      { image with layers := derived.layers, dockerMetadata := derived.dockerMetadata } := by
  obtain ⟨-, rfl⟩ | ⟨manifest, config?, -, -, -, -, rfl⟩ := derive_eq_ok_cases h
  · rfl
  · rfl

/-- A second derivation succeeds as the first one did, and changes nothing. -/
theorem derive_derive {image derived : Image} {outcome : Derivation}
    (h : image.derive = (.ok outcome, derived)) : derived.derive = (.ok outcome, derived) := by
  obtain ⟨-, rfl⟩ | ⟨manifest, config?, hmanifest, hread, hconfig, rfl, rfl⟩ := derive_eq_ok_cases h
  · exact h
  · -- the payloads are those of the image, so they are read again
    have hmanifest' : (image.filled manifest config?).HasManifest := hmanifest
    have hread' : (image.filled manifest config?).readManifest? = some manifest := hread
    have hconfig' : (image.filled manifest config?).readConfig? = some config? := hconfig
    rw [derive_of_hasManifest hmanifest', hread', hconfig']
    simp only [filled_filled]

end Image

end RegistryBench
