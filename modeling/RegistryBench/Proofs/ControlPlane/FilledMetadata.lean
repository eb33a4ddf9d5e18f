import Mathlib.Algebra.GroupWithZero.Nat
import RegistryBench.Proofs.ControlPlane.Derivation
import RegistryBench.Proofs.Json.Codecs
import RegistryBench.Proofs.Json.Documents

/-!
# What derivations fill in

A derivation keeps everything that an image says about itself, and takes from the payloads what is
missing. Only the size is always taken from them. The config of containers is taken as data, which
says the same as the payload (`ContainerConfig.read_document`).

Main result: `Image.derive_fills`. It says when a derivation succeeds, what it fills in then, field
by field (`DockerImageMetadata.FilledFrom`), and that a second one changes nothing.
-/

namespace RegistryBench

/-! ### The config of containers as data -/

/-- What containers run is read back from the data that is made of it, whose keys are in another
order. -/
theorem ContainerConfig.read_document (c : ContainerConfig) (room : Nat) :
    codec.read (room + 2) c.document.toJson = some c := by
  have htexts : ∀ texts : List String,
      (Codec.list .text).read (room + 1) (.list (texts.map Json.text)) = some texts :=
    fun texts => Codec.keeps_list fun text _ => Codec.keeps_text room text
  have htext : Codec.text.read (room + 1) (.text c.workingDir) = some c.workingDir :=
    Codec.keeps_text (room + 1) c.workingDir
  have hjson : c.document.toJson = .object [(some "Cmd", .list (c.cmd.map Json.text)),
      (some "Env", .list (c.env.map Json.text)), (some "WorkingDir", .text c.workingDir)] := by
    simp only [document, Document.toJson, Document.membersToJson, Document.itemsToJson_eq_map,
      List.map_map]
    rfl
  have hplaces : Fields.places? ["Env", "Cmd", "WorkingDir"] c.document.toJson =
      some [some (.list (c.env.map Json.text)), some (.list (c.cmd.map Json.text)),
        some (.text c.workingDir)] := by
    rw [hjson]
    rfl
  rw [codec, Fields.read_codec]
  show (Fields.places? ["Env", "Cmd", "WorkingDir"] c.document.toJson).bind _ = _
  rw [hplaces, Option.bind_some]
  simp [Fields.cons, Fields.last, Field.read, Field.defaulted, htexts, htext]

/-! ### Field by field -/

/-- The size of a manifest is that of the config and of all layers. -/
theorem Manifest.size_eq_sum (m : Manifest) :
    m.size = m.config.size + (m.layers.map Descriptor.size).sum := by
  rw [size, List.sum_eq_foldr, List.foldr_map]

namespace DockerImageMetadata

/-- Metadata holds what was known, and what was not known is taken from a manifest and, when there
is one, a config. -/
structure FilledFrom (known filled : DockerImageMetadata) (manifest : Manifest)
    (config? : Option ImageConfig) : Prop where
  /-- The digest of the config is that of the manifest when it was not known. -/
  id : filled.id = if known.id = "" then manifest.config.digest else known.id
  /-- The time is that of the config when it was not known. -/
  created : filled.created = known.created.or (config?.bind ImageConfig.created)
  /-- The architecture is that of the config when it was not known. -/
  architecture : filled.architecture =
    if known.architecture = "" then config?.elim "" ImageConfig.architecture
    else known.architecture
  /-- The operating system is that of the config when it was not known. -/
  os : filled.os = if known.os = "" then config?.elim "" ImageConfig.os else known.os
  /-- The size is always that of config and layers together, added without a bound. -/
  size : filled.size = manifest.config.size + (manifest.layers.map Descriptor.size).sum
  /-- What containers run is what the config says when it was not known. -/
  config : filled.config =
    known.config.or ((config?.bind ImageConfig.config).map ContainerConfig.document)
  /-- What the config says is read back from the data that was made of it. -/
  container : ∀ container ∈ config?.bind ImageConfig.config, known.config = none →
    ∃ document ∈ filled.config,
      ContainerConfig.codec.read Codec.depth document.toJson = some container

/-- What is filled in comes from the payloads, each field on its own. -/
theorem filledFrom_fill (known : DockerImageMetadata) (manifest : Manifest)
    (config? : Option ImageConfig) :
    known.FilledFrom (known.fill manifest config?) manifest config? := by
  cases config? with
  | none =>
    -- what is not known stays empty
    exact {
      id := rfl
      created := Option.or_none.symm
      architecture := by simp [fill, fillFromManifest]
      os := by simp [fill, fillFromManifest]
      size := manifest.size_eq_sum
      config := Option.or_none.symm
      container := nofun }
  | some config =>
    refine {
      id := rfl
      created := rfl
      architecture := rfl
      os := rfl
      size := manifest.size_eq_sum
      config := rfl
      container := fun container hmem hnone => ?_ }
    refine ⟨container.document, ?_, container.read_document 125⟩
    have hcontainer : config.config = some container := hmem
    show known.config.or (config.config.map ContainerConfig.document) = some container.document
    rw [hnone, hcontainer]
    rfl

end DockerImageMetadata

namespace Image

/-- An image has a manifest when there is a payload and its media type, which may be missing, is
that of one. -/
theorem hasManifest_iff (image : Image) :
    image.HasManifest ↔ image.manifest ≠ "" ∧
      image.manifestMediaType ∈ ["", MediaType.ociManifest, MediaType.dockerManifest] := by
  rw [HasManifest, MediaType.isManifest_iff, effectiveMediaType]
  split
  next hempty => simp [hempty]
  next hsome => simp [hsome]

/-- A derivation succeeds when what there is to read can be read: a payload that is declared to be
the manifest of one image, or not declared, and then the config. It changes the layers and the
metadata at most, and without such a payload nothing. It fills in what is missing: all layers in
their order when there were none, and each field of the metadata. A second derivation succeeds and
changes nothing. -/
theorem derive_fills (image : Image) :
    ((∃ outcome derived, image.derive = (.ok outcome, derived)) ↔
        (image.manifest ≠ "" ∧
            image.manifestMediaType ∈ ["", MediaType.ociManifest, MediaType.dockerManifest] →
          (∃ manifest, image.readManifest? = some manifest) ∧
            ∃ config?, image.readConfig? = some config?)) ∧
      ∀ outcome derived, image.derive = (.ok outcome, derived) →
        derived =
            { image with layers := derived.layers, dockerMetadata := derived.dockerMetadata } ∧
          (image.manifest = "" ∨
              image.manifestMediaType ∉ ["", MediaType.ociManifest, MediaType.dockerManifest] →
            derived = image) ∧
          (image.manifest ≠ "" →
            image.manifestMediaType ∈ ["", MediaType.ociManifest, MediaType.dockerManifest] →
            ∃ manifest config? filled,
              image.readManifest? = some manifest ∧ image.readConfig? = some config? ∧
              derived.layers =
                (if image.layers = [] then manifest.layers.map .ofDescriptor else image.layers) ∧
              derived.dockerMetadata = some filled ∧
              (image.dockerMetadata.getD {}).FilledFrom filled manifest config?) ∧
          derived.derive = (.ok outcome, derived) := by
  refine ⟨?_, fun outcome derived h =>
    ⟨eq_of_derive h, fun hnone => ?_, fun hsome htype => ?_, derive_derive h⟩⟩
  · rw [← hasManifest_iff]
    exact exists_derive_eq_ok_iff image
  · obtain ⟨-, hsame⟩ | ⟨manifest, config?, hmanifest, -⟩ := derive_eq_ok_cases h
    · exact hsame
    · obtain ⟨hsome, htype⟩ := (hasManifest_iff image).1 hmanifest
      exact absurd hnone (not_or.2 ⟨hsome, not_not_intro htype⟩)
  · -- with a payload that is to be read, the first of the two ways to succeed is excluded
    obtain ⟨hnone, -⟩ | ⟨manifest, config?, -, hread, hconfig, -, rfl⟩ := derive_eq_ok_cases h
    · exact absurd ((hasManifest_iff image).2 ⟨hsome, htype⟩) hnone
    · exact ⟨manifest, config?, _, hread, hconfig, rfl, rfl,
        DockerImageMetadata.filledFrom_fill _ manifest config?⟩

/-- An image of which only the operating system is known. -/
def ofKnownSystem : Image :=
  { metadata := { name := "sha256:image" }
    manifest := "\x7b\"schemaVersion\":2," ++
      "\"config\":\x7b\"mediaType\":\"config\",\"digest\":\"sha256:config\",\"size\":7\x7d," ++
      "\"layers\":[\x7b\"mediaType\":\"layer\",\"digest\":\"sha256:layer\",\"size\":3\x7d]\x7d"
    config := "\x7b\"architecture\":\"amd64\",\"os\":\"linux\"," ++
      "\"config\":\x7b\"Cmd\":[\"run\"]\x7d\x7d"
    dockerMetadata := some { os := "plan9", size := 1 } }

/-- The operating system that is known stays, and everything else is taken from the payloads. -/
theorem derive_fills_ofKnownSystem :
    ∃ derived filled, ofKnownSystem.derive = (.ok .derived, derived) ∧
      derived.layers = [⟨"sha256:layer", 3, "layer"⟩] ∧ derived.dockerMetadata = some filled ∧
      (filled.id = "sha256:config" ∧ filled.created = none ∧ filled.architecture = "amd64" ∧
        filled.os = "plan9" ∧ filled.size = 10 ∧
        filled.config = some (ContainerConfig.document ⟨[], ["run"], ""⟩)) ∧
      derived.derive = (.ok .derived, derived) := by
  have hmanifest : ofKnownSystem.HasManifest :=
    (hasManifest_iff ofKnownSystem).2 ⟨by decide, by decide⟩
  have hread : ofKnownSystem.readManifest? = some
      ⟨2, "", ⟨"config", "sha256:config", 7, none⟩, [⟨"layer", "sha256:layer", 3, none⟩]⟩ := by
    decide +kernel
  have hconfig : ofKnownSystem.readConfig? =
      some (some ⟨none, "amd64", "linux", some ⟨[], ["run"], ""⟩⟩) := by
    decide +kernel
  have hderive := derive_of_hasManifest hmanifest
  rw [hread, hconfig] at hderive
  obtain ⟨-, -, hfills, hagain⟩ := (derive_fills ofKnownSystem).2 _ _ hderive
  obtain ⟨manifest, config?, filled, hread', hconfig', hlayers, hmetadata, hfilled⟩ :=
    hfills hmanifest.1 (by decide)
  obtain rfl := Option.some.inj (hread.symm.trans hread')
  obtain rfl := Option.some.inj (hconfig.symm.trans hconfig')
  exact ⟨_, filled, hderive, hlayers, hmetadata,
    ⟨hfilled.id, hfilled.created, hfilled.architecture, hfilled.os, hfilled.size, hfilled.config⟩,
    hagain⟩

end Image

end RegistryBench
