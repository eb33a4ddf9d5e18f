import RegistryBench.Fixture
import RegistryBench.Proofs.ControlPlane.Derivation
import RegistryBench.Proofs.ControlPlane.SubManifests
import RegistryBench.Proofs.Digest.Grammar

/-!
# Images named by their content

A fixture image is named by the digest of its manifest (`Fixture.imageFor_eq_ok_iff`). A control
plane keeps such names: it stores what it was offered or given as a replacement
(`origin_of_stored`), and filling in the manifests of a list changes neither name nor payload. So a
run that is given fixture images only stores images that are named by their content
(`named_by_content`).
-/

namespace RegistryBench

/-- A payload that is a text is the encoding of that text. -/
theorem Text.ofUtf8?_eq_some_iff {octets : Bytes} {text : String} :
    ofUtf8? octets = some text ↔ octets = utf8 text := by
  refine ⟨eq_utf8_of_ofUtf8?, ?_⟩
  rintro rfl
  exact ofUtf8?_utf8 text

namespace Image

/-- The name of the image is the digest of its manifest. -/
def IsNamedByContent (image : Image) : Prop :=
  image.name = (Digest.ofContent (Text.utf8 image.manifest)).toText

/-- Filling in references leaves both the name and the content. -/
theorem IsNamedByContent.expand {image expanded : Image} (hnamed : image.IsNamedByContent)
    (h : image.expand = .ok expanded) : expanded.IsNamedByContent := by
  rw [(expand_eq_ok_iff.1 h).rest_eq]
  exact hnamed

end Image

namespace Fixture

/-- The image with some payloads in a repository, before anything is derived. -/
def bareImage (repository manifest config mediaType : String) : Image :=
  let name := (Digest.ofContent (Text.utf8 manifest)).toText
  { metadata := .named "" name
    reference := repository ++ "@" ++ name
    manifest
    manifestMediaType := mediaType
    config }

/-- A payload is accepted when it is the encoding of a text. -/
theorem payloadText_eq_ok_iff {what digest : String} {payload : Bytes} {text : String} :
    payloadText what digest payload = .ok text ↔ payload = Text.utf8 text := by
  rw [payloadText, ← Text.ofUtf8?_eq_some_iff]
  cases Text.ofUtf8? payload with
  | none => simp
  | some read => simp

/-- Payloads that are texts give an image when its metadata can be derived. -/
theorem imageFor_utf8 (repository manifest config mediaType : String) :
    imageFor repository (Text.utf8 manifest) (Text.utf8 config) mediaType =
      match (bareImage repository manifest config mediaType).derive with
      | (.ok _, image) => .ok image
      | (.error fault, _) => .error (.badRequest fault) := by
  rw [imageFor, payloadText_eq_ok_iff.2 rfl, payloadText_eq_ok_iff.2 rfl]
  rfl

/-- Payloads that give an image are texts. -/
theorem exists_utf8_of_imageFor {repository mediaType : String} {manifest config : Bytes}
    {image : Image} (h : imageFor repository manifest config mediaType = .ok image) :
    ∃ manifestText configText,
      manifest = Text.utf8 manifestText ∧ config = Text.utf8 configText := by
  rw [imageFor] at h
  -- the manifest is checked first, and then the config
  cases hmanifest : payloadText "manifest" (Digest.ofContent manifest).toText manifest with
  | error e =>
    rw [hmanifest] at h
    cases h
  | ok manifestText =>
    rw [hmanifest] at h
    cases hconfig : payloadText "config" (Digest.ofContent manifest).toText config with
    | error e =>
      simp only [bind, Except.bind, hconfig] at h
      cases h
    | ok configText =>
      exact ⟨manifestText, configText, payloadText_eq_ok_iff.1 hmanifest,
        payloadText_eq_ok_iff.1 hconfig⟩

/-- There is a fixture image when the payloads are texts and metadata can be derived from them. -/
theorem imageFor_eq_ok_iff {repository mediaType : String} {manifest config : Bytes}
    {image : Image} :
    imageFor repository manifest config mediaType = .ok image ↔
      ∃ manifestText configText outcome,
        manifest = Text.utf8 manifestText ∧ config = Text.utf8 configText ∧
          (bareImage repository manifestText configText mediaType).derive =
            (.ok outcome, image) := by
  constructor
  · intro h
    obtain ⟨manifestText, configText, rfl, rfl⟩ := exists_utf8_of_imageFor h
    rw [imageFor_utf8] at h
    split at h
    next outcome derived hderive =>
      obtain rfl := Except.ok.inj h
      exact ⟨manifestText, configText, outcome, rfl, rfl, hderive⟩
    next => contradiction
  · rintro ⟨manifestText, configText, outcome, rfl, rfl, hderive⟩
    rw [imageFor_utf8, hderive]

/-- A fixture image is the image with its payloads, with layers and metadata filled in. -/
theorem eq_of_imageFor {repository mediaType : String} {manifest config : Bytes} {image : Image}
    (h : imageFor repository manifest config mediaType = .ok image) :
    ∃ manifestText configText,
      manifest = Text.utf8 manifestText ∧ config = Text.utf8 configText ∧
        image = { bareImage repository manifestText configText mediaType with
          layers := image.layers, dockerMetadata := image.dockerMetadata } := by
  obtain ⟨manifestText, configText, outcome, hmanifest, hconfig, hderive⟩ := imageFor_eq_ok_iff.1 h
  exact ⟨manifestText, configText, hmanifest, hconfig, Image.eq_of_derive hderive⟩

/-- A fixture image is named by its content. -/
theorem isNamedByContent_of_imageFor {repository mediaType : String} {manifest config : Bytes}
    {image : Image} (h : imageFor repository manifest config mediaType = .ok image) :
    image.IsNamedByContent := by
  obtain ⟨manifestText, configText, -, -, heq⟩ := eq_of_imageFor h
  rw [heq]
  exact rfl

end Fixture

namespace ControlPlane

/-- What is picked from the request that an exchange has served is picked from that of its
operation. -/
theorem Exchange.of_served?_bind {exchange : Exchange} {pick : Request → Option Image}
    {image : Image} (h : exchange.served?.bind pick = some image) :
    pick exchange.operation.request = some image := by
  obtain ⟨now, operation, answer⟩ := exchange
  cases answer with
  | ok outcome => exact h
  | error e => cases h

/-- A stored image has replaced another one as it is, or was offered and had its manifests filled
in. -/
theorem origin_of_stored {operations : List (Timestamp × Operation)} {name : String}
    {image : Image} (hstored : (empty.after operations).store.image? name = some image) :
    ∃ step ∈ operations, step.2.request.replacement? = some image ∨
      ∃ offered, step.2.request.offer? = some offered ∧ offered.expand = .ok image := by
  have hversioned := versioned_after operations name
  have himage := hversioned.image?_eq
  rw [hstored, eq_comm, Option.or_eq_some_iff] at himage
  -- either the last replacement is stored, or the first offer
  rcases himage with hlast | ⟨-, hfirst⟩
  · obtain ⟨exchange, hexchange, hreplacement⟩ :=
      List.mem_filterMap.1 (List.mem_of_getLast? hlast)
    refine ⟨_, mem_operations_of_mem_transcript hexchange, Or.inl ?_⟩
    exact Exchange.of_served?_bind (Option.eq_some_of_filter_eq_some hreplacement)
  · obtain ⟨offered, hhead, hfilled⟩ := Option.bind_eq_some_iff.1 hfirst
    obtain ⟨exchange, hexchange, hoffer⟩ :=
      List.mem_filterMap.1 (List.mem_of_mem_head? hhead)
    obtain ⟨expanded, hexpand⟩ := hversioned.expand_head hhead
    -- the image that was offered first is stored as it was filled in
    rw [hexpand] at hfilled
    obtain rfl : expanded = image := Option.some.inj hfilled
    refine ⟨_, mem_operations_of_mem_transcript hexchange, Or.inr ⟨offered, ?_, hexpand⟩⟩
    exact Exchange.of_served?_bind (Option.eq_some_of_filter_eq_some hoffer)

/-- There is a fixture image just when the payloads are texts and metadata can be derived from them.
Its name is a digest that accepts its manifest, and nothing of another hash; it refers to the
repository by that name, and its payloads are those given. When nothing but fixture images is ever
offered or put in the place of others, then each image that is stored is named by the digest of
its manifest. -/
theorem named_by_content :
    (∀ (repository mediaType : String) (manifest config : Bytes),
      ((∃ image, Fixture.imageFor repository manifest config mediaType = .ok image) ↔
        ∃ manifestText configText,
          manifest = Text.utf8 manifestText ∧ config = Text.utf8 configText ∧
            ∃ outcome derived,
              (Fixture.bareImage repository manifestText configText mediaType).derive =
                (.ok outcome, derived)) ∧
      ∀ image, Fixture.imageFor repository manifest config mediaType = .ok image →
        (∃ digest, Digest.parse image.name = .ok digest ∧
          ∀ content, digest.verify content = .ok () ↔
            Digest.ofContent content = Digest.ofContent (Text.utf8 image.manifest)) ∧
        image.reference = repository ++ "@" ++ image.name ∧
        Text.utf8 image.manifest = manifest ∧ Text.utf8 image.config = config) ∧
    ∀ operations : List (Timestamp × Operation),
      (∀ step ∈ operations, ∀ image,
        step.2.request.offer? = some image ∨ step.2.request.replacement? = some image →
          ∃ repository manifest config mediaType,
            Fixture.imageFor repository manifest config mediaType = .ok image) →
      ∀ name image, (empty.after operations).store.image? name = some image →
        image.name = (Digest.ofContent (Text.utf8 image.manifest)).toText := by
  refine ⟨fun repository mediaType manifest config => ⟨?_, fun image himage => ?_⟩, ?_⟩
  · -- both sides say the same of the payloads and of the derivation; only the order differs
    simp only [Fixture.imageFor_eq_ok_iff]
    constructor
    · rintro ⟨image, manifestText, configText, outcome, hmanifest, hconfig, hderive⟩
      exact ⟨manifestText, configText, hmanifest, hconfig, outcome, image, hderive⟩
    · rintro ⟨manifestText, configText, hmanifest, hconfig, outcome, image, hderive⟩
      exact ⟨image, manifestText, configText, outcome, hmanifest, hconfig, hderive⟩
  · obtain ⟨manifestText, configText, rfl, rfl, heq⟩ := Fixture.eq_of_imageFor himage
    have hname : image.name = (Digest.ofContent (Text.utf8 manifestText)).toText :=
      congrArg Image.name heq
    have hreference : image.reference = repository ++ "@" ++ image.name :=
      hname ▸ congrArg Image.reference heq
    have hmanifest : image.manifest = manifestText := congrArg Image.manifest heq
    have hconfig : image.config = configText := congrArg Image.config heq
    rw [hmanifest, hconfig]
    refine
      ⟨⟨Digest.ofContent (Text.utf8 manifestText), ?_, fun content => ?_⟩, hreference, rfl, rfl⟩
    · rw [hname]
      exact Digest.parse_toText_ofContent _
    · rw [Digest.verify_eq_ok_iff]
      exact eq_comm
  · intro operations hfixture name image hstored
    obtain ⟨step, hstep, hreplacement | ⟨offered, hoffer, hexpand⟩⟩ := origin_of_stored hstored
    · obtain ⟨repository, manifest, config, mediaType, himage⟩ :=
        hfixture step hstep image (Or.inr hreplacement)
      exact Fixture.isNamedByContent_of_imageFor himage
    · obtain ⟨repository, manifest, config, mediaType, himage⟩ :=
        hfixture step hstep offered (Or.inl hoffer)
      exact (Fixture.isNamedByContent_of_imageFor himage).expand hexpand

section Pushed

/-- A docker manifest with a config and a layer. -/
def oneLayer : String :=
  "\x7b\"schemaVersion\":2," ++
    "\"config\":\x7b\"mediaType\":\"config\",\"digest\":\"sha256:config\",\"size\":7\x7d," ++
    "\"layers\":[\x7b\"mediaType\":\"layer\",\"digest\":\"sha256:layer\",\"size\":3\x7d]\x7d"

/-- The config of an image for some platform. -/
def amd64Config : String :=
  "\x7b\"architecture\":\"amd64\",\"os\":\"linux\"\x7d"

/-- The fixture image of that manifest. -/
def oneLayerImage : Image :=
  (Fixture.bareImage "test/app" oneLayer amd64Config MediaType.dockerManifest).derive.2

/-- The fixture image of an index. -/
def indexImage : Image :=
  Fixture.bareImage "test/app" indexOfOne "" MediaType.ociIndex

theorem imageFor_oneLayer :
    Fixture.imageFor "test/app" (Text.utf8 oneLayer) (Text.utf8 amd64Config)
      MediaType.dockerManifest = .ok oneLayerImage := by
  let bare := Fixture.bareImage "test/app" oneLayer amd64Config MediaType.dockerManifest
  have hmanifest : bare.readManifest?.isSome = true := by decide +kernel
  have hconfig : bare.readConfig?.isSome = true := by decide +kernel
  obtain ⟨outcome, derived, hderive⟩ := (Image.exists_derive_eq_ok_iff _).2 fun _ =>
    ⟨Option.isSome_iff_exists.1 hmanifest, Option.isSome_iff_exists.1 hconfig⟩
  rw [Fixture.imageFor_eq_ok_iff, oneLayerImage, hderive]
  exact ⟨oneLayer, amd64Config, outcome, rfl, rfl, hderive⟩

theorem imageFor_indexOfOne :
    Fixture.imageFor "test/app" (Text.utf8 indexOfOne) (Text.utf8 "") MediaType.ociIndex =
      .ok indexImage :=
  Fixture.imageFor_eq_ok_iff.2 ⟨indexOfOne, "", .skipped, rfl, rfl, rfl⟩

/-- The fixture image of the index is created, and then replaced by itself. -/
def pushedTwice : List (Timestamp × Operation) :=
  [(⟨0, 0⟩, .createImage indexImage), (⟨1, 0⟩, .updateImage indexImage)]

/-- The name of the first image is a digest that accepts its manifest. The second one is stored
under the digest of its manifest. -/
theorem named_by_content_pushedTwice :
    (∃ digest, Digest.parse oneLayerImage.name = .ok digest ∧
      digest.verify (Text.utf8 oneLayerImage.manifest) = .ok ()) ∧
      ∃ image, (empty.after pushedTwice).store.image? indexImage.name = some image ∧
        image.name = (Digest.ofContent (Text.utf8 image.manifest)).toText := by
  obtain ⟨hfixture, hrun⟩ := named_by_content
  obtain ⟨-, himage⟩ := hfixture "test/app" MediaType.dockerManifest (Text.utf8 oneLayer)
    (Text.utf8 amd64Config)
  obtain ⟨⟨digest, hparse, hverify⟩, -⟩ := himage oneLayerImage imageFor_oneLayer
  have hbuilt : ∀ step ∈ pushedTwice, ∀ image,
      step.2.request.offer? = some image ∨ step.2.request.replacement? = some image →
        ∃ repository manifest config mediaType,
          Fixture.imageFor repository manifest config mediaType = .ok image := by
    intro step hstep image himage
    simp only [pushedTwice, List.mem_cons, List.not_mem_nil, or_false] at hstep
    obtain rfl : indexImage = image := by
      rcases hstep with rfl | rfl
      · simpa [Operation.request, Request.offer?, Request.replacement?] using himage
      · simpa [Operation.request, Request.offer?, Request.replacement?] using himage
    exact ⟨_, _, _, _, imageFor_indexOfOne⟩
  have hstored : ((empty.after pushedTwice).store.image? indexImage.name).isSome = true := by
    decide +kernel
  obtain ⟨stored, hstored⟩ := Option.isSome_iff_exists.1 hstored
  exact ⟨⟨digest, hparse, (hverify _).2 rfl⟩, stored, hstored,
    hrun pushedTwice hbuilt _ _ hstored⟩

end Pushed

end ControlPlane

end RegistryBench
