import RegistryBench.Manifest.Builder
import RegistryBench.Proofs.Json.Codecs
import RegistryBench.Proofs.Manifest.Payloads

/-!
# Reading the payloads that were written

The text of a manifest is read as that manifest under the media types of manifests, and the text
of a list as that list under those of lists. Under the media types of the other kind neither is
read at all: a list has no config, and a manifest has no manifests. The numbers must be ones that
the documents can hold (`Descriptor.Fits` and the predicates built on it).

Main result: `Payload.kinds_apart`. It holds of everything that the builders put together, whose
media types are always of the kind they build (`ManifestBuilder.Sound`,
`ManifestListBuilder.Sound`).
-/

namespace RegistryBench

/-! ### Numbers that documents hold -/

/-- The size of the blob has sixty-four bits. -/
def Descriptor.Fits (d : Descriptor) : Prop :=
  d.size < 18446744073709551616

/-- Whether a size fits is decidable. -/
instance Descriptor.decidableFits (d : Descriptor) : Decidable d.Fits :=
  inferInstanceAs (Decidable (_ < _))

/-- All numbers of a manifest fit. -/
structure Manifest.Fits (m : Manifest) : Prop where
  /-- The version of the schema has thirty-two bits. -/
  schemaVersion : m.schemaVersion < 4294967296
  /-- The config fits. -/
  config : m.config.Fits
  /-- The layers fit. -/
  layers : ∀ layer ∈ m.layers, layer.Fits

/-- All numbers of a list of manifests fit. -/
structure ManifestList.Fits (l : ManifestList) : Prop where
  /-- The version of the schema has thirty-two bits. -/
  schemaVersion : l.schemaVersion < 4294967296
  /-- The manifests fit. -/
  manifests : ∀ manifest ∈ l.manifests, manifest.Fits

/-! ### Documents that are kept -/

theorem Platform.keeps_codec (p : Platform) (room : Nat) : Platform.codec.Keeps (room + 1) p := by
  refine Fields.keeps_codec (fun _ => rfl) (by decide) ?_ rfl
  exact Fields.keeps_cons (Field.keeps_required _ (Codec.keeps_text room _)) <|
    Fields.keeps_cons (Field.keeps_required _ (Codec.keeps_text room _)) <|
    Fields.keeps_last (Field.keeps_optional _ (fun v _ => Codec.keeps_text room v) nofun)

theorem Descriptor.keeps_codec {d : Descriptor} (h : d.Fits) (room : Nat) :
    Descriptor.codec.Keeps (room + 2) d := by
  refine Fields.keeps_codec (fun _ => rfl) (by decide) ?_ rfl
  exact Fields.keeps_cons (Field.keeps_required _ (Codec.keeps_text _ _)) <|
    Fields.keeps_cons (Field.keeps_required _ (Codec.keeps_text _ _)) <|
    Fields.keeps_cons (Field.keeps_required _ (Codec.keeps_natural h _)) <|
    Fields.keeps_last (Field.keeps_optional _ (fun p _ => p.keeps_codec room) nofun)

theorem Manifest.keeps_codec {m : Manifest} (h : m.Fits) (room : Nat) :
    Manifest.codec.Keeps (room + 4) m := by
  refine Fields.keeps_codec (fun _ => rfl) (by decide) ?_ rfl
  exact Fields.keeps_cons (Field.keeps_required _ (Codec.keeps_natural h.schemaVersion _)) <|
    Fields.keeps_cons (Field.keeps_text _ _ _) <|
    Fields.keeps_cons (Field.keeps_required _ (Descriptor.keeps_codec h.config (room + 1))) <|
    Fields.keeps_last <| Field.keeps_required _ <| Codec.keeps_list fun layer hlayer =>
      Descriptor.keeps_codec (h.layers layer hlayer) room

theorem ManifestList.keeps_codec {l : ManifestList} (h : l.Fits) (room : Nat) :
    ManifestList.codec.Keeps (room + 4) l := by
  refine Fields.keeps_codec (fun _ => rfl) (by decide) ?_ rfl
  exact Fields.keeps_cons (Field.keeps_required _ (Codec.keeps_natural h.schemaVersion _)) <|
    Fields.keeps_cons (Field.keeps_text _ _ _) <|
    Fields.keeps_last <| Field.keeps_required _ <| Codec.keeps_list fun manifest hmanifest =>
      Descriptor.keeps_codec (h.manifests manifest hmanifest) room

theorem Manifest.reads_toBytes {m : Manifest} (h : m.Fits) :
    Manifest.codec.ofBytes? m.toBytes = some m := by
  rw [toBytes, Codec.ofBytes?_indented]
  exact keeps_codec h 123

theorem ManifestList.reads_toBytes {l : ManifestList} (h : l.Fits) :
    ManifestList.codec.ofBytes? l.toBytes = some l := by
  rw [toBytes, Codec.ofBytes?_indented]
  exact keeps_codec h 123

/-- A manifest is no list: it has no manifests. -/
theorem Manifest.not_reads_manifestList (m : Manifest) :
    ManifestList.codec.ofBytes? m.toBytes = none := by
  rw [toBytes, Codec.ofBytes?_indented]
  exact Fields.read_codec_write_of_needs (.there (.there (.last "manifests" _) _) _) (by decide) _ m

/-- A list of manifests is no manifest: it has no config. -/
theorem ManifestList.not_reads_manifest (l : ManifestList) :
    Manifest.codec.ofBytes? l.toBytes = none := by
  rw [toBytes, Codec.ofBytes?_indented]
  exact Fields.read_codec_write_of_needs (.there (.there (.here "config" _ _) _) _) (by decide) _ l

/-! ### What builders put together -/

theorem Descriptor.fits_ofContent (mediaType : String) {content : Bytes}
    (h : content.length < 18446744073709551616) : (ofContent mediaType content).Fits :=
  h

namespace ManifestBuilder

/-- The sizes that a step mentions fit. -/
def Step.Fits : Step → Prop
  | oci => True
  | config content => content.length < 18446744073709551616
  | configDescriptor descriptor => descriptor.Fits
  | layer descriptor => descriptor.Fits
  | layerBlob blob => blob.data.length < 18446744073709551616

/-- The media type of a builder is one of manifests, and its descriptors fit. -/
structure Sound (builder : ManifestBuilder) : Prop where
  /-- The media type is one of manifests. -/
  mediaType : builder.mediaType ∈ [MediaType.ociManifest, MediaType.dockerManifest]
  /-- The config fits, when there is one. -/
  config : ∀ descriptor ∈ builder.config, descriptor.Fits
  /-- The layers fit. -/
  layers : ∀ layer ∈ builder.layers, layer.Fits

theorem sound_init : Sound {} where
  mediaType := by simp
  config := nofun
  layers := nofun

theorem Sound.step {builder : ManifestBuilder} (h : builder.Sound) {step : Step}
    (hstep : step.Fits) : (builder.step step).Sound := by
  -- a descriptor behind the layers that are there
  have hlayers : ∀ {descriptor : Descriptor}, descriptor.Fits →
      ∀ layer ∈ builder.layers ++ [descriptor], layer.Fits := fun hfits =>
    List.forall_mem_append.2 ⟨h.layers, List.forall_mem_singleton.2 hfits⟩
  cases step with
  | oci => exact ⟨List.mem_cons_self, h.config, h.layers⟩
  | config content =>
    refine ⟨h.mediaType, fun descriptor hdescriptor => ?_, h.layers⟩
    obtain rfl := Option.some.inj hdescriptor
    exact Descriptor.fits_ofContent _ hstep
  | configDescriptor descriptor =>
    refine ⟨h.mediaType, fun other hother => ?_, h.layers⟩
    obtain rfl := Option.some.inj hother
    exact hstep
  | layer descriptor => exact ⟨h.mediaType, h.config, hlayers hstep⟩
  | layerBlob blob => exact ⟨h.mediaType, h.config, hlayers hstep⟩

theorem Sound.steps {builder : ManifestBuilder} (h : builder.Sound) {steps : List Step}
    (hsteps : ∀ step ∈ steps, step.Fits) : (steps.foldl ManifestBuilder.step builder).Sound := by
  induction steps generalizing builder with
  | nil => exact h
  | cons step steps ih =>
    obtain ⟨hstep, hsteps⟩ := List.forall_mem_cons.1 hsteps
    exact ih (h.step hstep) hsteps

/-- The config that is taken for want of another one fits as well. -/
theorem Sound.fits_build {builder : ManifestBuilder} (h : builder.Sound) : builder.build.Fits where
  schemaVersion := show 2 < _ by decide
  config := by
    show (builder.config.getD _).Fits
    cases hconfig : builder.config with
    | none => exact Descriptor.fits_ofContent _ (by decide)
    | some descriptor => exact h.config descriptor hconfig
  layers := h.layers

end ManifestBuilder

namespace ManifestListBuilder

/-- The sizes that a step mentions fit. -/
def Step.Fits : Step → Prop
  | oci => True
  | manifest _ payload _ _ => payload.length < 18446744073709551616
  | entry descriptor => descriptor.Fits

/-- The media type of a builder is one of lists, and its descriptors fit. -/
structure Sound (builder : ManifestListBuilder) : Prop where
  /-- The media type is one of lists. -/
  mediaType : builder.mediaType ∈ [MediaType.ociIndex, MediaType.dockerManifestList]
  /-- The manifests fit. -/
  manifests : ∀ manifest ∈ builder.manifests, manifest.Fits

theorem sound_init : Sound {} where
  mediaType := by simp
  manifests := nofun

theorem Sound.step {builder : ManifestListBuilder} (h : builder.Sound) {step : Step}
    (hstep : step.Fits) : (builder.step step).Sound := by
  cases step with
  | oci => exact ⟨List.mem_cons_self, h.manifests⟩
  | manifest mediaType payload architecture os =>
    exact ⟨h.mediaType, List.forall_mem_append.2 ⟨h.manifests, List.forall_mem_singleton.2 hstep⟩⟩
  | entry descriptor =>
    exact ⟨h.mediaType, List.forall_mem_append.2 ⟨h.manifests, List.forall_mem_singleton.2 hstep⟩⟩

theorem Sound.steps {builder : ManifestListBuilder} (h : builder.Sound) {steps : List Step}
    (hsteps : ∀ step ∈ steps, step.Fits) :
    (steps.foldl ManifestListBuilder.step builder).Sound := by
  induction steps generalizing builder with
  | nil => exact h
  | cons step steps ih =>
    obtain ⟨hstep, hsteps⟩ := List.forall_mem_cons.1 hsteps
    exact ih (h.step hstep) hsteps

theorem Sound.fits_build {builder : ManifestListBuilder} (h : builder.Sound) :
    builder.build.Fits where
  schemaVersion := show 2 < _ by decide
  manifests := h.manifests

end ManifestListBuilder

/-! ### The two kinds -/

namespace Payload

/-- Under a media type of manifests, a manifest is read back and a list is refused. -/
theorem parse_of_manifestType {mediaType : String}
    (h : mediaType ∈ [MediaType.ociManifest, MediaType.dockerManifest]) :
    (∀ manifest : Manifest, manifest.Fits →
        parse mediaType manifest.toBytes = .ok (.image manifest)) ∧
      ∀ list : ManifestList, parse mediaType list.toBytes = .error (.invalid mediaType) := by
  have hmanifest := MediaType.isManifest_iff.2 h
  refine ⟨fun manifest hfits => ?_, fun list => ?_⟩
  · rw [parse_of_isManifest hmanifest, Manifest.reads_toBytes hfits]
  · rw [parse_of_isManifest hmanifest, ManifestList.not_reads_manifest]

/-- Under a media type of lists, a list is read back and a manifest is refused. -/
theorem parse_of_indexType {mediaType : String}
    (h : mediaType ∈ [MediaType.ociIndex, MediaType.dockerManifestList]) :
    (∀ list : ManifestList, list.Fits → parse mediaType list.toBytes = .ok (.index list)) ∧
      ∀ manifest : Manifest, parse mediaType manifest.toBytes = .error (.invalid mediaType) := by
  have hindex := MediaType.isIndex_iff.2 h
  refine ⟨fun list hfits => ?_, fun manifest => ?_⟩
  · rw [parse_of_isIndex hindex, ManifestList.reads_toBytes hfits]
  · rw [parse_of_isIndex hindex, Manifest.not_reads_manifestList]

/-- Manifests are read back from their text under the media types of manifests only, and lists
under those of lists only; under the types of the other kind they are invalid, and under any other
type no text is read. What builders put together is read back under its own media type. -/
theorem kinds_apart (mediaType : String) (manifest : Manifest) (list : ManifestList) :
    (mediaType ∈ [MediaType.ociManifest, MediaType.dockerManifest] →
        (manifest.Fits → parse mediaType manifest.toBytes = .ok (.image manifest)) ∧
          parse mediaType list.toBytes = .error (.invalid mediaType)) ∧
      (mediaType ∈ [MediaType.ociIndex, MediaType.dockerManifestList] →
        (list.Fits → parse mediaType list.toBytes = .ok (.index list)) ∧
          parse mediaType manifest.toBytes = .error (.invalid mediaType)) ∧
      (mediaType ∉ [MediaType.ociManifest, MediaType.dockerManifest, MediaType.ociIndex,
          MediaType.dockerManifestList] →
        ∀ octets, parse mediaType octets = .error (.unsupported mediaType)) ∧
      (∀ steps : List ManifestBuilder.Step, (∀ step ∈ steps, step.Fits) →
        let built := ManifestBuilder.ofSteps steps
        parse built.mediaType built.toBytes = .ok (.image built)) ∧
      ∀ steps : List ManifestListBuilder.Step, (∀ step ∈ steps, step.Fits) →
        let built := ManifestListBuilder.ofSteps steps
        parse built.mediaType built.toBytes = .ok (.index built) := by
  refine ⟨fun htype => ?_, fun htype => ?_, fun hother octets => ?_, fun steps hsteps => ?_,
    fun steps hsteps => ?_⟩
  · obtain ⟨hread, hrefused⟩ := parse_of_manifestType htype
    exact ⟨hread manifest, hrefused list⟩
  · obtain ⟨hread, hrefused⟩ := parse_of_indexType htype
    exact ⟨hread list, hrefused manifest⟩
  · -- a type that is none of the four belongs to neither kind
    have hmanifest : ¬ MediaType.isManifest mediaType = true := by
      rw [MediaType.isManifest_iff]
      exact fun hmem => hother (List.mem_append_left _ hmem)
    have hindex : ¬ MediaType.isIndex mediaType = true := by
      rw [MediaType.isIndex_iff]
      exact fun hmem => hother (List.mem_append_right [_, _] hmem)
    exact parse_of_other hindex hmanifest octets
  · have hsound := ManifestBuilder.sound_init.steps hsteps
    exact (parse_of_manifestType hsound.mediaType).1 _ hsound.fits_build
  · have hsound := ManifestListBuilder.sound_init.steps hsteps
    exact (parse_of_indexType hsound.mediaType).1 _ hsound.fits_build

/-- A manifest without a media type whose config has a variant and the largest size, a list with
one platform, and what two builders make. -/
theorem kinds_apart_variant :
    let manifest : Manifest :=
      ⟨2, "", ⟨"config", "\"é\n", 18446744073709551615, some ⟨"arm64", "linux", some "v8"⟩⟩, []⟩
    let list : ManifestList := ⟨0, "list", [⟨"", "digest", 3, some ⟨"arm64", "linux", none⟩⟩]⟩
    let built := ManifestBuilder.ofSteps [.layer ⟨"layer", "digest", 3, none⟩, .oci, .config []]
    let index := ManifestListBuilder.ofSteps [.manifest "type" [0x7B, 0x7D] "arm64" "linux"]
    parse MediaType.ociManifest manifest.toBytes = .ok (.image manifest) ∧
      parse MediaType.ociManifest list.toBytes = .error (.invalid MediaType.ociManifest) ∧
      parse MediaType.ociIndex list.toBytes = .ok (.index list) ∧
      parse MediaType.ociIndex manifest.toBytes = .error (.invalid MediaType.ociIndex) ∧
      parse MediaType.ociConfig [] = .error (.unsupported MediaType.ociConfig) ∧
      parse built.mediaType built.toBytes = .ok (.image built) ∧
      parse index.mediaType index.toBytes = .ok (.index index) := by
  intro manifest list built index
  have hmanifest : manifest.Fits := ⟨by decide, by decide, by decide⟩
  have hlist : list.Fits := ⟨by decide, by decide⟩
  obtain ⟨himage, -, -, hbuilt, hindex⟩ := kinds_apart MediaType.ociManifest manifest list
  obtain ⟨-, hlists, -, -, -⟩ := kinds_apart MediaType.ociIndex manifest list
  obtain ⟨-, -, hother, -, -⟩ := kinds_apart MediaType.ociConfig manifest list
  obtain ⟨hread, hrefused⟩ := himage (by decide)
  obtain ⟨hread', hrefused'⟩ := hlists (by decide)
  refine ⟨hread hmanifest, hrefused, hread' hlist, hrefused', hother (by decide) [],
    hbuilt _ ?_, hindex _ ?_⟩
  · simp [ManifestBuilder.Step.Fits, Descriptor.Fits]
  · simp [ManifestListBuilder.Step.Fits]

end Payload

end RegistryBench
