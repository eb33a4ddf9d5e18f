import RegistryBench.Digest.Codec
import RegistryBench.Manifest.Basic
import RegistryBench.Proofs.Digest.Grammar
import RegistryBench.Proofs.Json.Documents
import RegistryBench.Resource.ImageStream

/-!
# Reading what was written

Every document of the registry and of the control plane is read back from the text written for
it. The stability of each codec follows the definition of the codec, field by field.

## Main results

- `Schema.stableOn_codec`: the codec of each type is stable, given that the numbers of double
  precision in free-form documents are read back.
- `Schema.ofBytes?_toBytes`: what was read from any text is read again from its own text, as long as
  the numbers in free-form documents are 64-bit integers, or are read from their own numerals.
- `Schema.ofBytes?_toBytes_wideMetadata`: a longer integer need not be read again.
-/

namespace RegistryBench

open Codec (Stable StableOn stable_text proper_text)

/-! ### Digests and timestamps -/

/-- A digest is written as the text that it was read from. -/
theorem Digest.stable_codec : Digest.codec.Stable 0 := by
  intro room _ json digest hread _
  obtain ⟨raw, -, hparse⟩ := Option.bind_eq_some_iff.1 hread
  have hparse : parse raw = .ok digest := by
    cases h : parse raw with
    | error fault => simp [h, Except.toOption] at hparse
    | ok read => simpa [h, Except.toOption] using hparse
  show (parse digest.toText).toOption = some digest
  rw [(parse_eq_ok_iff.1 hparse).1, hparse]
  rfl

namespace Timestamp

/-- What is left after carrying lies within the ranges of the two parts. -/
theorem lt_of_carry? {seconds nanos : Nat} {t : Timestamp} (h : carry? seconds nanos = some t) :
    t.seconds < 9223372036854775808 ∧ t.nanos < nanosPerSecond := by
  simp only [carry?] at h
  split at h
  · next hseconds =>
    obtain rfl := Option.some.inj h
    exact ⟨hseconds, Nat.mod_lt _ (by decide)⟩
  · cases h

/-- Nothing is carried out of less than a second. -/
theorem carry?_eq_self {t : Timestamp} (hseconds : t.seconds < 9223372036854775808)
    (hnanos : t.nanos < nanosPerSecond) : carry? t.seconds t.nanos = some t := by
  simp [carry?, Nat.div_eq_of_lt hnanos, Nat.mod_eq_of_lt hnanos, hseconds]

/-- A timestamp is kept when its parts have their ranges. -/
theorem keeps_codec {t : Timestamp} (hseconds : t.seconds < 9223372036854775808)
    (hnanos : t.nanos < nanosPerSecond) (room : Nat) : codec.Keeps (room + 1) t := by
  -- what has been carried fits into the two numbers that are written
  have hsmall : t.seconds < 18446744073709551616 ∧ t.nanos < 4294967296 := by
    rw [nanosPerSecond] at hnanos
    omega
  have hfields : fields.Keeps room (t.seconds, t.nanos) :=
    Fields.keeps_cons (Field.keeps_required _ (Codec.keeps_natural hsmall.1 room)) <|
      Fields.keeps_last (Field.keeps_required _ (Codec.keeps_natural hsmall.2 room))
  have hclosed : (fields.closedCodec id id).read (room + 1)
      ((fields.closedCodec id id).write (t.seconds, t.nanos)) = some (t.seconds, t.nanos) := by
    rw [Fields.read_closedCodec_write]
    exact Fields.keeps_codec (fun _ => rfl) (by decide) hfields rfl
  simp only [Codec.Keeps, codec, hclosed, Option.bind_some]
  exact carry?_eq_self hseconds hnanos

/-- A timestamp that was read has its nanoseconds carried, so that reading it again carries nothing.
-/
theorem stable_codec : codec.Stable 1 := by
  intro room hroom json t hread _
  obtain ⟨parts, -, hcarry⟩ := Option.bind_eq_some_iff.1 hread
  obtain ⟨hseconds, hnanos⟩ := lt_of_carry? hcarry
  cases room with
  | zero => exact absurd hroom (by decide)
  | succ room => exact keeps_codec hseconds hnanos room

theorem proper_codec : codec.Proper :=
  Codec.proper_of_ne_null nofun

end Timestamp

/-! ### Manifests -/

/-- A platform is made of texts. -/
theorem Platform.stable_codec : Platform.codec.Stable 1 :=
  Fields.StableOn.codec
    (.cons (.required "architecture" stable_text) <|
      .cons (.required "os" stable_text) <|
      .last (.optional "variant" stable_text proper_text))
    (by decide) (by decide) (fun _ => rfl) (fun _ _ => by simp)

/-- A descriptor leaves out a platform that it does not have. -/
theorem Descriptor.stable_codec : Descriptor.codec.Stable 2 :=
  Fields.StableOn.codec
    (.cons (.required "mediaType" stable_text) <|
      .cons (.required "digest" stable_text) <|
      .cons (.required "size" (Codec.stable_natural _)) <|
      .last (.optional "platform" Platform.stable_codec (Fields.proper_codec _ _ _)))
    (by decide) (by decide) (fun _ => rfl) (fun _ _ => by simp)

/-- A manifest is as stable as the descriptors in it. -/
theorem Manifest.stable_codec : Manifest.codec.Stable 4 :=
  Fields.StableOn.codec
    (.cons (.required "schemaVersion" (Codec.stable_natural _)) <|
      .cons (.text "mediaType") <|
      .cons (.required "config" Descriptor.stable_codec) <|
      .last (.required "layers" Descriptor.stable_codec.list))
    (by decide) (by decide) (fun _ => rfl) (fun _ _ => by simp)

/-- A manifest list is as stable as the descriptors in it. -/
theorem ManifestList.stable_codec : ManifestList.codec.Stable 4 :=
  Fields.StableOn.codec
    (.cons (.required "schemaVersion" (Codec.stable_natural _)) <|
      .cons (.text "mediaType") <|
      .last (.required "manifests" Descriptor.stable_codec.list))
    (by decide) (by decide) (fun _ => rfl) (fun _ _ => by simp)

/-- The config of containers is made of texts and lists of texts, and whatever is missing is empty.
-/
theorem ContainerConfig.stable_codec : ContainerConfig.codec.Stable 2 :=
  Fields.StableOn.codec
    (.cons (.defaulted "Env" stable_text.list fun _ => Codec.keeps_nil) <|
      .cons (.defaulted "Cmd" stable_text.list fun _ => Codec.keeps_nil) <|
      .last (.defaulted "WorkingDir" stable_text fun _ _ => rfl))
    (by decide) (by decide) (fun _ => rfl) (fun _ _ => by simp)

/-- The config of an image is as stable as the config of containers in it. -/
theorem ImageConfig.stable_codec : ImageConfig.codec.Stable 3 :=
  Fields.StableOn.codec
    (.cons (.optional "created" stable_text proper_text) <|
      .cons (.text "architecture") <|
      .cons (.text "os") <|
      .last (.optional "config" ContainerConfig.stable_codec (Fields.proper_codec _ _ _)))
    (by decide) (by decide) (fun _ => rfl) (fun _ _ => by simp)

/-! ### Metadata -/

/-- Metadata is as stable as the time and the annotations in it. -/
theorem ObjectMeta.stable_codec : ObjectMeta.codec.Stable 2 :=
  Fields.StableOn.codec
    (.cons (.defaulted "name" stable_text fun _ _ => rfl) <|
      .cons (.text "namespace") <|
      .cons (.optional "creationTimestamp" Timestamp.stable_codec Timestamp.proper_codec) <|
      .last (.table "annotations" stable_text))
    (by decide) (by decide) (fun _ => rfl) (fun _ _ => by simp)

theorem ObjectReference.stable_codec : ObjectReference.codec.Stable 1 :=
  Fields.StableOn.codec
    (.cons (.required "kind" stable_text) <|
      .cons (.text "namespace") <|
      .last (.required "name" stable_text))
    (by decide) (by decide) (fun _ => rfl) (fun _ _ => by simp)

/-! ### Images -/

theorem ImageLayer.stable_codec : ImageLayer.codec.Stable 1 :=
  Fields.StableOn.codec
    (.cons (.required "name" stable_text) <|
      .cons (.required "size" (Codec.stable_natural _)) <|
      .last (.required "mediaType" stable_text))
    (by decide) (by decide) (fun _ => rfl) (fun _ _ => by simp)

theorem ImageManifest.stable_codec : ImageManifest.codec.Stable 1 :=
  Fields.StableOn.codec
    (.cons (.required "digest" stable_text) <|
      .cons (.required "mediaType" stable_text) <|
      .cons (.required "manifestSize" (Codec.stable_natural _)) <|
      .cons (.defaulted "architecture" stable_text fun _ _ => rfl) <|
      .last (.defaulted "os" stable_text fun _ _ => rfl))
    (by decide) (by decide) (fun _ => rfl) (fun _ _ => by simp)

/-- The numbers in the free-form part of image metadata that are no 64-bit integers. -/
def DockerImageMetadata.decimals (m : DockerImageMetadata) : List Decimal :=
  m.config.elim [] Document.decimals

/-- The numbers in the free-form part of an image that are no 64-bit integers. -/
def Image.decimals (image : Image) : List Decimal :=
  image.dockerMetadata.elim [] DockerImageMetadata.decimals

/-- Image metadata is stable as far as the numbers in its free-form part are read back. -/
theorem DockerImageMetadata.stableOn_codec :
    DockerImageMetadata.codec.StableOn (fun m => ∀ x ∈ m.decimals, x.ReadsBack) 1 :=
  Fields.StableOn.codec
    (.cons (.defaulted "Id" stable_text fun _ _ => rfl) <|
      .cons (.optional "Created" stable_text proper_text) <|
      .cons (.defaulted "Architecture" stable_text fun _ _ => rfl) <|
      .cons (.defaulted "Os" stable_text fun _ _ => rfl) <|
      .cons (.defaulted "Size" (Codec.stable_natural _) fun room _ =>
        Codec.keeps_natural (by decide) room) <|
      .last (.optional "Config" Document.stableOn_codec Document.proper_codec))
    (by decide) (by decide) (fun _ => rfl) fun m hm => by
      -- numbers that are no integers occur in the config only
      refine ⟨trivial, by simp, trivial, trivial, trivial, ?_⟩
      intro d (hd : m.config = some d) x hx
      refine hm x ?_
      rw [decimals, hd]
      exact hx

/-- An image is stable as far as its metadata is. -/
theorem Image.stableOn_codec : Image.codec.StableOn (fun i => ∀ x ∈ i.decimals, x.ReadsBack) 3 :=
  Fields.StableOn.codec
    (.cons (.required "metadata" ObjectMeta.stable_codec) <|
      .cons (.defaulted "dockerImageReference" stable_text fun _ _ => rfl) <|
      .cons (.defaulted "dockerImageManifest" stable_text fun _ _ => rfl) <|
      .cons (.defaulted "dockerImageManifestMediaType" stable_text fun _ _ => rfl) <|
      .cons (.defaulted "dockerImageConfig" stable_text fun _ _ => rfl) <|
      .cons (.defaulted "dockerImageLayers" ImageLayer.stable_codec.list fun _ hroom =>
        Codec.keeps_nil (Nat.lt_of_succ_lt hroom)) <|
      .cons (.list "dockerImageManifests" ImageManifest.stable_codec) <|
      .last (.optional "dockerImageMetadata" DockerImageMetadata.stableOn_codec
        (Fields.proper_codec _ _ _)))
    (by decide) (by decide) (fun _ => rfl) fun i hi => by
      -- those of an image are those of its metadata
      refine ⟨trivial, trivial, trivial, trivial, trivial, by simp, by simp, ?_⟩
      intro m (hm : i.dockerMetadata = some m) x hx
      refine hi x ?_
      rw [decimals, hm]
      exact hx

/-- An image without anything is kept: it is what a list with empty metadata is read as. -/
theorem Image.keeps_empty {room : Nat} (h : 3 ≤ room) : Image.codec.Keeps room {} := by
  obtain ⟨room, rfl⟩ := Nat.exists_eq_add_of_le' h
  exact stableOn_codec _ h (.list [.list []]) {} rfl nofun

/-! ### Image streams -/

/-- A tag that users ask for leaves out a source that it does not have. -/
theorem TagReference.stable_codec : TagReference.codec.Stable 2 :=
  Fields.StableOn.codec
    (.cons (.required "name" stable_text) <|
      .cons (.optional "from" ObjectReference.stable_codec (Fields.proper_codec _ _ _)) <|
      .last (.table "annotations" stable_text))
    (by decide) (by decide) (fun _ => rfl) (fun _ _ => by simp)

/-- A tag event is as stable as the time that it carries. -/
theorem TagEvent.stable_codec : TagEvent.codec.Stable 2 :=
  Fields.StableOn.codec
    (.cons (.required "created" Timestamp.stable_codec) <|
      .cons (.defaulted "dockerImageReference" stable_text fun _ _ => rfl) <|
      .cons (.required "image" stable_text) <|
      .last (.defaulted "generation" (Codec.stable_integer _ _) fun room _ =>
        Codec.keeps_integer (by decide) room))
    (by decide) (by decide) (fun _ => rfl) (fun _ _ => by simp)

/-- The history of a tag is as stable as its events. -/
theorem TagHistory.stable_codec : TagHistory.codec.Stable 4 :=
  Fields.StableOn.codec
    (.cons (.required "tag" stable_text) <|
      .last (.defaulted "items" TagEvent.stable_codec.list fun _ hroom =>
        Codec.keeps_nil (by omega)))
    (by decide) (by decide) (fun _ => rfl) (fun _ _ => by simp)

theorem StreamStatus.stable_codec : StreamStatus.codec.Stable 6 :=
  Fields.StableOn.codec
    (.cons (.defaulted "dockerImageRepository" stable_text fun _ _ => rfl) <|
      .last (.defaulted "tags" TagHistory.stable_codec.list fun _ hroom =>
        Codec.keeps_nil (by omega)))
    (by decide) (by decide) (fun _ => rfl) (fun _ _ => by simp)

theorem StreamSpec.stable_codec : StreamSpec.codec.Stable 4 :=
  Fields.StableOn.codec
    (.last (.defaulted "tags" TagReference.stable_codec.list fun _ hroom =>
      Codec.keeps_nil (by omega)))
    (by decide) (by decide) (fun _ => rfl) (fun _ _ => by simp)

/-- A status without anything is kept: it is what an empty list is read as. -/
theorem StreamStatus.keeps_empty {room : Nat} (h : 6 ≤ room) :
    StreamStatus.codec.Keeps room {} := by
  obtain ⟨room, rfl⟩ := Nat.exists_eq_add_of_le' h
  exact stable_codec _ h (.list []) {} rfl trivial

/-- A specification without anything is kept: it is what an empty list is read as. -/
theorem StreamSpec.keeps_empty {room : Nat} (h : 4 ≤ room) : StreamSpec.codec.Keeps room {} := by
  obtain ⟨room, rfl⟩ := Nat.exists_eq_add_of_le' h
  exact stable_codec _ h (.list []) {} rfl trivial

/-- A stream is as stable as what users ask for and what is known of it. -/
theorem ImageStream.stable_codec : ImageStream.codec.Stable 7 :=
  Fields.StableOn.codec
    (.cons (.required "metadata" ObjectMeta.stable_codec) <|
      .cons (.defaulted "spec" StreamSpec.stable_codec fun _ => StreamSpec.keeps_empty) <|
      .last (.defaulted "status" StreamStatus.stable_codec fun _ => StreamStatus.keeps_empty))
    (by decide) (by decide) (fun _ => rfl) (fun _ _ => by simp)

/-- A mapping is stable as far as its image is. -/
theorem ImageStreamMapping.stableOn_codec :
    ImageStreamMapping.codec.StableOn (fun m => ∀ x ∈ m.image.decimals, x.ReadsBack) 4 :=
  Fields.StableOn.codec
    (.cons (.required "metadata" ObjectMeta.stable_codec) <|
      .cons (.required "image" Image.stableOn_codec) <|
      .last (.required "tag" stable_text))
    (by decide) (by decide) (fun _ => rfl) (fun _ hm => ⟨trivial, hm, trivial⟩)

/-- A tag of a stream is stable as far as its image is. -/
theorem ImageStreamTag.stableOn_codec :
    ImageStreamTag.codec.StableOn (fun t => ∀ x ∈ t.image.decimals, x.ReadsBack) 4 :=
  Fields.StableOn.codec
    (.cons (.required "metadata" ObjectMeta.stable_codec) <|
      .cons (.optional "tag" TagReference.stable_codec (Fields.proper_codec _ _ _)) <|
      .last (.defaulted "image" Image.stableOn_codec fun _ => Image.keeps_empty))
    (by decide) (by decide) (fun _ => rfl) (fun _ ht => ⟨trivial, by simp, ht⟩)

/-- An image as seen through a stream is stable as far as the image is. -/
theorem ImageStreamImage.stableOn_codec :
    ImageStreamImage.codec.StableOn (fun i => ∀ x ∈ i.image.decimals, x.ReadsBack) 4 :=
  Fields.StableOn.codec
    (.cons (.required "metadata" ObjectMeta.stable_codec) <|
      .last (.required "image" Image.stableOn_codec))
    (by decide) (by decide) (fun _ => rfl) (fun _ hi => ⟨trivial, hi⟩)

theorem BlobData.stable_codec : BlobData.codec.Stable 1 :=
  Fields.StableOn.codec
    (.cons (.optional "size" (Codec.stable_natural _) (Codec.proper_natural _)) <|
      .last (.required "mediaType" stable_text))
    (by decide) (by decide) (fun _ => rfl) (fun _ _ => by simp)

theorem BlobReferences.stable_codec : BlobReferences.codec.Stable 2 :=
  Fields.StableOn.codec
    (.cons (.defaulted "layers" stable_text.list fun _ => Codec.keeps_nil) <|
      .cons (.optional "config" stable_text proper_text) <|
      .cons (.defaulted "manifests" stable_text.list fun _ => Codec.keeps_nil) <|
      .last (.defaulted "imageMissing" Codec.stable_bool fun room _ => rfl))
    (by decide) (by decide) (fun _ => rfl) (fun _ _ => by simp)

/-- A layers view is a pair of tables, which are written in the order of their keys. -/
theorem StreamLayers.stable_codec : StreamLayers.codec.Stable 4 :=
  Fields.StableOn.codec
    (.cons (.required "metadata" ObjectMeta.stable_codec) <|
      .cons (.defaulted "blobs" BlobData.stable_codec.table fun _ hroom =>
        Codec.keeps_empty (by omega)) <|
      .last (.defaulted "images" BlobReferences.stable_codec.table fun _ hroom =>
        Codec.keeps_empty (by omega)))
    (by decide) (by decide) (fun _ => rfl) (fun _ _ => by simp)

/-! ### Secrets -/

theorem Secret.stable_codec : Secret.codec.Stable 3 :=
  Fields.StableOn.codec
    (.cons (.required "metadata" ObjectMeta.stable_codec) <|
      .last (.defaulted "data" (Codec.Stable.table (Codec.stable_octet.list.mono
        (fun _ _ => by simp) (Nat.le_refl 1))) fun _ hroom => Codec.keeps_empty (by omega)))
    (by decide) (by decide) (fun _ => rfl) (fun _ _ => by simp)

theorem SecretList.stable_codec : SecretList.codec.Stable 5 :=
  Fields.StableOn.codec
    (.last (.defaulted "items" Secret.stable_codec.list fun _ hroom =>
      Codec.keeps_nil (by omega)))
    (by decide) (by decide) (fun _ => rfl) (fun _ _ => by simp)

/-! ### All types -/

/-- The types that whole texts are read as. -/
inductive Schema where
  /-- Digests. -/
  | digest
  /-- References to blobs. -/
  | descriptor
  /-- Platforms. -/
  | platform
  /-- Manifests of one image. -/
  | manifest
  /-- Lists of manifests. -/
  | manifestList
  /-- Configs of images. -/
  | imageConfig
  /-- What containers run. -/
  | containerConfig
  /-- Metadata of resources. -/
  | objectMeta
  /-- References to resources. -/
  | objectReference
  /-- Images. -/
  | image
  /-- Layers of images. -/
  | imageLayer
  /-- Manifests that a manifest list refers to. -/
  | imageManifest
  /-- What clients read about an image. -/
  | dockerImageMetadata
  /-- Image streams. -/
  | imageStream
  /-- Tags that users asked for. -/
  | tagReference
  /-- Points in the history of a tag. -/
  | tagEvent
  /-- Histories of tags. -/
  | tagHistory
  /-- Requests to point a tag at an image. -/
  | imageStreamMapping
  /-- Tags of streams. -/
  | imageStreamTag
  /-- Images seen through streams. -/
  | imageStreamImage
  /-- The blobs and images that a stream refers to. -/
  | streamLayers
  /-- The secrets of a stream. -/
  | secretList
deriving DecidableEq

namespace Schema

/-- What is read from a text of a type. -/
def Value : Schema → Type
  | digest => Digest
  | descriptor => Descriptor
  | platform => Platform
  | manifest => Manifest
  | manifestList => ManifestList
  | imageConfig => ImageConfig
  | containerConfig => ContainerConfig
  | objectMeta => ObjectMeta
  | objectReference => ObjectReference
  | image => Image
  | imageLayer => ImageLayer
  | imageManifest => ImageManifest
  | dockerImageMetadata => DockerImageMetadata
  | imageStream => ImageStream
  | tagReference => TagReference
  | tagEvent => TagEvent
  | tagHistory => TagHistory
  | imageStreamMapping => ImageStreamMapping
  | imageStreamTag => ImageStreamTag
  | imageStreamImage => ImageStreamImage
  | streamLayers => StreamLayers
  | secretList => SecretList

/-- How the values of a type are written and read. -/
def codec : (s : Schema) → Codec s.Value
  | digest => Digest.codec
  | descriptor => Descriptor.codec
  | platform => Platform.codec
  | manifest => Manifest.codec
  | manifestList => ManifestList.codec
  | imageConfig => ImageConfig.codec
  | containerConfig => ContainerConfig.codec
  | objectMeta => ObjectMeta.codec
  | objectReference => ObjectReference.codec
  | image => Image.codec
  | imageLayer => ImageLayer.codec
  | imageManifest => ImageManifest.codec
  | dockerImageMetadata => DockerImageMetadata.codec
  | imageStream => ImageStream.codec
  | tagReference => TagReference.codec
  | tagEvent => TagEvent.codec
  | tagHistory => TagHistory.codec
  | imageStreamMapping => ImageStreamMapping.codec
  | imageStreamTag => ImageStreamTag.codec
  | imageStreamImage => ImageStreamImage.codec
  | streamLayers => StreamLayers.codec
  | secretList => SecretList.codec

/-- The numbers in the free-form parts of a value that are no 64-bit integers. Only image metadata
has a free-form part. -/
def decimals : (s : Schema) → s.Value → List Decimal
  | image, (i : Image) => i.decimals
  | dockerImageMetadata, (m : DockerImageMetadata) => m.decimals
  | imageStreamMapping, (m : ImageStreamMapping) => m.image.decimals
  | imageStreamTag, (t : ImageStreamTag) => t.image.decimals
  | imageStreamImage, (i : ImageStreamImage) => i.image.decimals
  | _, _ => []

/-- Each type is stable: reading a text may normalise, but reading what was read changes nothing. -/
theorem stableOn_codec (s : Schema) :
    s.codec.StableOn (fun value => ∀ x ∈ s.decimals value, x.ReadsBack) 7 := by
  -- a type without a free-form part is stable whatever is asked of its values
  have plain : ∀ {α : Type} {c : Codec α} {least : Nat} {holds : α → Prop}, c.Stable least →
      least ≤ 7 → c.StableOn holds 7 := fun h => h.mono fun _ _ => trivial
  cases s with
  | digest => exact plain Digest.stable_codec (by decide)
  | descriptor => exact plain Descriptor.stable_codec (by decide)
  | platform => exact plain Platform.stable_codec (by decide)
  | manifest => exact plain Manifest.stable_codec (by decide)
  | manifestList => exact plain ManifestList.stable_codec (by decide)
  | imageConfig => exact plain ImageConfig.stable_codec (by decide)
  | containerConfig => exact plain ContainerConfig.stable_codec (by decide)
  | objectMeta => exact plain ObjectMeta.stable_codec (by decide)
  | objectReference => exact plain ObjectReference.stable_codec (by decide)
  | image => exact Image.stableOn_codec.mono (fun _ => id) (by decide)
  | imageLayer => exact plain ImageLayer.stable_codec (by decide)
  | imageManifest => exact plain ImageManifest.stable_codec (by decide)
  | dockerImageMetadata => exact DockerImageMetadata.stableOn_codec.mono (fun _ => id) (by decide)
  | imageStream => exact plain ImageStream.stable_codec (by decide)
  | tagReference => exact plain TagReference.stable_codec (by decide)
  | tagEvent => exact plain TagEvent.stable_codec (by decide)
  | tagHistory => exact plain TagHistory.stable_codec (by decide)
  | imageStreamMapping => exact ImageStreamMapping.stableOn_codec.mono (fun _ => id) (by decide)
  | imageStreamTag => exact ImageStreamTag.stableOn_codec.mono (fun _ => id) (by decide)
  | imageStreamImage => exact ImageStreamImage.stableOn_codec.mono (fun _ => id) (by decide)
  | streamLayers => exact plain StreamLayers.stable_codec (by decide)
  | secretList => exact plain SecretList.stable_codec (by decide)

/-- Whatever text a value was read from, the compact text written for it is read as exactly that
value, so that recoding a text once more changes nothing. Free-form parts may hold any JSON. Of its
numbers, nothing is asked of 64-bit integers; all others have double precision, and must be read
from their own numerals. -/
theorem ofBytes?_toBytes (s : Schema) {octets : Bytes} {value : s.Value}
    (hread : s.codec.ofBytes? octets = some value)
    (hdecimals : ∀ x ∈ s.decimals value, x.ReadsBack) :
    s.codec.ofBytes? (s.codec.toBytes value) = some value ∧
      (s.codec.recode? octets).bind s.codec.recode? = s.codec.recode? octets := by
  have hagain : s.codec.ofBytes? (s.codec.toBytes value) = some value :=
    s.stableOn_codec.keeps_bytes (by decide) hread hdecimals
  have hrecode : s.codec.recode? octets = some (s.codec.toBytes value) := by
    rw [Codec.recode?, hread, Option.map_some]
  refine ⟨hagain, ?_⟩
  rw [hrecode, Option.bind_some, Codec.recode?, hagain, Option.map_some]

/-- Image metadata with its keys in another order and with an unknown one; the members of the
free-form part are not sorted, and one of them is repeated. -/
def looseMetadata : Bytes :=
  Text.utf8 <| "\x7b \"Size\": 3, \"Layers\": [1.5e9, \x7b\x7d],\n\t\"Os\" : \"li\\u006eux\"," ++
    "\"Config\":\x7b\"b\": [1], \"c\": [18446744073709551615, -2, 1.5], \"a\": -0, " ++
    "\"b\": null\x7d \x7d"

/-- It is read again from the text that is written for it, which sorts the members. The zero with a
sign and the fraction are read from their own numerals. -/
theorem ofBytes?_toBytes_looseMetadata :
    ∃ value, dockerImageMetadata.codec.ofBytes? looseMetadata = some value ∧
      dockerImageMetadata.decimals value = [⟨true, 0, 0⟩, ⟨false, 15, -1⟩] ∧
      dockerImageMetadata.codec.ofBytes? (dockerImageMetadata.codec.toBytes value) = some value ∧
      (dockerImageMetadata.codec.recode? looseMetadata).bind dockerImageMetadata.codec.recode? =
        dockerImageMetadata.codec.recode? looseMetadata := by
  have hread : (dockerImageMetadata.codec.ofBytes? looseMetadata).map dockerImageMetadata.decimals =
      some [⟨true, 0, 0⟩, ⟨false, 15, -1⟩] := by
    decide +kernel
  obtain ⟨value, hread, hnumbers⟩ := Option.map_eq_some_iff.1 hread
  have hdecimals : ∀ x ∈ dockerImageMetadata.decimals value, x.ReadsBack := by
    rw [hnumbers]
    decide +kernel
  exact ⟨value, hread, hnumbers, ofBytes?_toBytes dockerImageMetadata hread hdecimals⟩

/-- Image metadata of which only the free-form part is known, which is a number. -/
def metadataText (numeral : String) : Bytes :=
  Text.utf8 <| "\x7b\"Id\":\"\",\"Architecture\":\"\",\"Os\":\"\",\"Size\":0,\"Config\":" ++
    numeral ++ "\x7d"

/-- Image metadata with an integer of more than 64 bits in the free-form part. -/
def wideMetadata : Bytes :=
  metadataText "300000000000000000000000"

/-- An integer of more than 64 bits has double precision, and its shortest numeral is read as the
number beside it. So another value is read from the text that is written, and recoding that text
makes another one. -/
theorem ofBytes?_toBytes_wideMetadata :
    (∃ value, dockerImageMetadata.codec.ofBytes? wideMetadata = some value ∧
      dockerImageMetadata.codec.ofBytes? (dockerImageMetadata.codec.toBytes value) ≠ some value) ∧
      dockerImageMetadata.codec.recode? wideMetadata = some (metadataText "3e+23") ∧
      dockerImageMetadata.codec.recode? (metadataText "3e+23") =
        some (metadataText "2.9999999999999997e+23") := by
  have honce : dockerImageMetadata.codec.recode? wideMetadata = some (metadataText "3e+23") := by
    decide +kernel
  have htwice : dockerImageMetadata.codec.recode? (metadataText "3e+23") =
      some (metadataText "2.9999999999999997e+23") := by
    decide +kernel
  have hother : metadataText "2.9999999999999997e+23" ≠ metadataText "3e+23" := by decide +kernel
  refine ⟨?_, honce, htwice⟩
  obtain ⟨value, hread, hwritten⟩ := Option.map_eq_some_iff.1 honce
  refine ⟨value, hread, fun hagain => hother ?_⟩
  -- were the value read again, the text would be written again
  rw [hwritten] at hagain
  rw [Codec.recode?, hagain, Option.map_some, hwritten] at htwice
  exact (Option.some.inj htwice).symm

end Schema

end RegistryBench
