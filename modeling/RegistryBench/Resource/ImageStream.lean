import RegistryBench.Resource.Image

/-!
# Image streams

A stream names tags in a namespace. Its status holds, for each tag, the history of images the tag
has pointed at. This module has streams, the resources seen through them, and the view of the
blobs that a stream refers to.
-/

namespace RegistryBench

/-- A tag that a user asked for. -/
structure TagReference where
  /-- The name of the tag. -/
  name : String := ""
  /-- What the tag was asked to point at. -/
  source : Option ObjectReference := none
  /-- Further texts about the tag. -/
  annotations : Annotations := ∅
deriving DecidableEq, Inhabited

/-- How tag references are written and read. -/
def TagReference.codec : Codec TagReference :=
  Fields.codec
    (.cons (.required "name" .text) <|
      .cons (.optional "from" ObjectReference.codec) <|
      .last (.table "annotations" .text))
    (fun (name, source, annotations) => ⟨name, source, annotations⟩)
    (fun t => (t.name, t.source, t.annotations))

/-- One point in the history of a tag. -/
structure TagEvent where
  /-- When the tag was pointed at the image. -/
  created : Timestamp
  /-- Where the image can be pulled from. -/
  reference : String
  /-- The name of the image, or nothing. -/
  image : String
  /-- The generation of the tag. -/
  generation : Int
deriving DecidableEq, Inhabited

namespace TagEvent

/-- How tag events are written and read. -/
def codec : Codec TagEvent :=
  Fields.codec
    (.cons (.required "created" Timestamp.codec) <|
      .cons (.defaulted "dockerImageReference" .text "") <|
      .cons (.required "image" .text) <|
      .last (.defaulted "generation" .integer64 0))
    (fun (created, reference, image, generation) => ⟨created, reference, image, generation⟩)
    (fun e => (e.created, e.reference, e.image, e.generation))

/-- The event of pointing a tag at an image now. -/
def now (clock : Timestamp) (reference image : String) : TagEvent :=
  ⟨clock, reference, image, 0⟩

end TagEvent

/-- The history of a tag. -/
structure TagHistory where
  /-- The name of the tag. -/
  tag : String
  /-- Its events, oldest first. -/
  items : List TagEvent
deriving DecidableEq, Inhabited

/-- How tag histories are written and read. -/
def TagHistory.codec : Codec TagHistory :=
  Fields.codec
    (.cons (.required "tag" .text) <|
      .last (.defaulted "items" TagEvent.codec.list []))
    (fun (tag, items) => ⟨tag, items⟩)
    (fun h => (h.tag, h.items))

/-- The status of a stream. -/
structure StreamStatus where
  /-- The repository that the stream stands for. -/
  repository : String := ""
  /-- The histories of the tags. -/
  tags : List TagHistory := []
deriving DecidableEq, Inhabited

/-- How the status of a stream is written and read. -/
def StreamStatus.codec : Codec StreamStatus :=
  Fields.codec
    (.cons (.defaulted "dockerImageRepository" .text "") <|
      .last (.defaulted "tags" TagHistory.codec.list []))
    (fun (repository, tags) => ⟨repository, tags⟩)
    (fun s => (s.repository, s.tags))

/-- What users asked of a stream. -/
structure StreamSpec where
  /-- The tags. -/
  tags : List TagReference := []
deriving DecidableEq, Inhabited

/-- How the specification of a stream is written and read. -/
def StreamSpec.codec : Codec StreamSpec :=
  Fields.codec (.last (.defaulted "tags" TagReference.codec.list []))
    (fun tags => ⟨tags⟩) StreamSpec.tags

/-- A named collection of tags in a namespace. -/
structure ImageStream where
  /-- Its metadata. -/
  metadata : ObjectMeta := {}
  /-- What users asked for. -/
  spec : StreamSpec := {}
  /-- Where the tags have pointed. -/
  status : StreamStatus := {}
deriving DecidableEq, Inhabited

namespace ImageStream

/-- How streams are written and read. -/
def codec : Codec ImageStream :=
  Fields.codec
    (.cons (.required "metadata" ObjectMeta.codec) <|
      .cons (.defaulted "spec" StreamSpec.codec {}) <|
      .last (.defaulted "status" StreamStatus.codec {}))
    (fun (metadata, spec, status) => ⟨metadata, spec, status⟩)
    (fun s => (s.metadata, s.spec, s.status))

/-- A stream without tags that was never stored. -/
def empty (ns name : String) : ImageStream :=
  { metadata := .named ns name }

/-- The first tag of that name that users asked for. -/
def specTag? (stream : ImageStream) (tag : String) : Option TagReference :=
  stream.spec.tags.find? fun t => t.name == tag

/-- The first history of that tag. -/
def statusTag? (stream : ImageStream) (tag : String) : Option TagHistory :=
  stream.status.tags.find? fun h => h.tag == tag

/-- The images that tag events name, in the order of the histories; events without an image are
passed over. -/
def referencedImages (stream : ImageStream) : List String :=
  ((stream.status.tags.flatMap TagHistory.items).map TagEvent.image).filter (· ≠ "")

/-- Put an event at the end of the first history of its tag, or of a new history at the end. -/
def pushInto (tag : String) (event : TagEvent) : List TagHistory → List TagHistory
  | [] => [⟨tag, [event]⟩]
  | history :: histories =>
    if history.tag = tag then { history with items := history.items ++ [event] } :: histories
    else history :: pushInto tag event histories

/-- Add an event to the history of a tag. -/
def pushTagEvent (stream : ImageStream) (tag : String) (event : TagEvent) : ImageStream :=
  { stream with status.tags := pushInto tag event stream.status.tags }

/-- Add a tag that a user asked for. -/
def addSpecTag (stream : ImageStream) (tag : TagReference) : ImageStream :=
  { stream with spec.tags := stream.spec.tags ++ [tag] }

/-- The events of the first history of a tag, oldest first; none when there is no history. -/
def tagEvents (stream : ImageStream) (tag : String) : List TagEvent :=
  ((stream.statusTag? tag).map TagHistory.items).getD []

/-- The first history of a tag after an event was put into that of some tag. -/
theorem find?_pushInto (tag other : String) (event : TagEvent) (histories : List TagHistory) :
    (pushInto tag event histories).find? (fun h => h.tag == other) =
      let found := histories.find? fun h => h.tag == other
      if tag = other then some ⟨tag, (found.map TagHistory.items).getD [] ++ [event]⟩
      else found := by
  induction histories with
  | nil => by_cases h : tag = other <;> simp [pushInto, h]
  | cons history histories ih =>
    rw [pushInto]
    by_cases htag : history.tag = tag
    · -- the event goes into this history, which is the first one of its tag
      by_cases h : tag = other <;> simp [htag, h]
    · rw [if_neg htag]
      by_cases hother : history.tag = other
      · -- the history that is looked for comes before that of the tag
        have hne : tag ≠ other := fun h => htag (hother.trans h.symm)
        simp [hother, hne]
      · simpa [hother] using ih

/-- An event is put at the end of the history of its tag, and of no other. -/
theorem tagEvents_pushTagEvent (stream : ImageStream) (tag other : String) (event : TagEvent) :
    (stream.pushTagEvent tag event).tagEvents other =
      if tag = other then stream.tagEvents other ++ [event] else stream.tagEvents other := by
  simp only [tagEvents, statusTag?, pushTagEvent, find?_pushInto]
  split
  · rfl
  · rfl

@[simp]
theorem tagEvents_addSpecTag (stream : ImageStream) (reference : TagReference) (tag : String) :
    (stream.addSpecTag reference).tagEvents tag = stream.tagEvents tag := rfl

end ImageStream

/-- A request to point a tag of a stream at an image. The metadata names the stream. -/
structure ImageStreamMapping where
  /-- The namespace and name of the stream. -/
  metadata : ObjectMeta
  /-- The image. -/
  image : Image
  /-- The tag. -/
  tag : String

/-- How mappings are written and read. -/
def ImageStreamMapping.codec : Codec ImageStreamMapping :=
  Fields.codec
    (.cons (.required "metadata" ObjectMeta.codec) <|
      .cons (.required "image" Image.codec) <|
      .last (.required "tag" .text))
    (fun (metadata, image, tag) => ⟨metadata, image, tag⟩)
    (fun m => (m.metadata, m.image, m.tag))

/-- One tag of a stream, named `stream:tag`. -/
structure ImageStreamTag where
  /-- Its metadata. -/
  metadata : ObjectMeta
  /-- The tag that a user asked for. -/
  tag : Option TagReference
  /-- The image the tag points at. -/
  image : Image

/-- How stream tags are written and read. -/
def ImageStreamTag.codec : Codec ImageStreamTag :=
  Fields.codec
    (.cons (.required "metadata" ObjectMeta.codec) <|
      .cons (.optional "tag" TagReference.codec) <|
      .last (.defaulted "image" Image.codec {}))
    (fun (metadata, tag, image) => ⟨metadata, tag, image⟩)
    (fun t => (t.metadata, t.tag, t.image))

/-- An image seen through a stream, named `stream@id`. -/
structure ImageStreamImage where
  /-- Its metadata. -/
  metadata : ObjectMeta
  /-- The image. -/
  image : Image

/-- How stream images are written and read. -/
def ImageStreamImage.codec : Codec ImageStreamImage :=
  Fields.codec
    (.cons (.required "metadata" ObjectMeta.codec) <|
      .last (.required "image" Image.codec))
    (fun (metadata, image) => ⟨metadata, image⟩)
    (fun i => (i.metadata, i.image))

/-- What is known about a blob. -/
structure BlobData where
  /-- Its size in octets, when it is known. -/
  size : Option Nat
  /-- Its media type. -/
  mediaType : String
deriving DecidableEq, Inhabited

/-- How blob data is written and read. -/
def BlobData.codec : Codec BlobData :=
  Fields.codec
    (.cons (.optional "size" .natural64) <|
      .last (.required "mediaType" .text))
    (fun (size, mediaType) => ⟨size, mediaType⟩)
    (fun b => (b.size, b.mediaType))

/-- The blobs that an image refers to. -/
structure BlobReferences where
  /-- The layers, in the order of the manifest. -/
  layers : List String := []
  /-- The config, when it is a blob of its own. -/
  config : Option String := none
  /-- The manifests of a manifest list. -/
  manifests : List String := []
  /-- Whether the image is not stored. -/
  imageMissing : Bool := false
deriving DecidableEq, Inhabited

/-- How blob references are written and read. -/
def BlobReferences.codec : Codec BlobReferences :=
  Fields.codec
    (.cons (.defaulted "layers" (.list .text) []) <|
      .cons (.optional "config" .text) <|
      .cons (.defaulted "manifests" (.list .text) []) <|
      .last (.defaulted "imageMissing" .bool false))
    (fun (layers, config, manifests, imageMissing) => ⟨layers, config, manifests, imageMissing⟩)
    (fun r => (r.layers, r.config, r.manifests, r.imageMissing))

/-- The blobs and images that a stream refers to. -/
structure StreamLayers where
  /-- The namespace and name of the stream. -/
  metadata : ObjectMeta
  /-- The blobs by digest. -/
  blobs : Std.ExtTreeMap String BlobData
  /-- The images by name. -/
  images : Std.ExtTreeMap String BlobReferences
deriving DecidableEq

/-- How stream layers are written and read. -/
def StreamLayers.codec : Codec StreamLayers :=
  Fields.codec
    (.cons (.required "metadata" ObjectMeta.codec) <|
      .cons (.defaulted "blobs" BlobData.codec.table ∅) <|
      .last (.defaulted "images" BlobReferences.codec.table ∅))
    (fun (metadata, blobs, images) => ⟨metadata, blobs, images⟩)
    (fun l => (l.metadata, l.blobs, l.images))

/-- A secret: named octets. -/
structure Secret where
  /-- Its metadata. -/
  metadata : ObjectMeta
  /-- The octets by name. -/
  data : Std.ExtTreeMap String Bytes

/-- How secrets are written and read. -/
def Secret.codec : Codec Secret :=
  Fields.codec
    (.cons (.required "metadata" ObjectMeta.codec) <|
      .last (.defaulted "data" (Codec.table (.list .octet)) ∅))
    (fun (metadata, data) => ⟨metadata, data⟩)
    (fun s => (s.metadata, s.data))

/-- The secrets of a stream. -/
structure SecretList where
  /-- The secrets. -/
  items : List Secret := []

/-- How lists of secrets are written and read. -/
def SecretList.codec : Codec SecretList :=
  Fields.codec (.last (.defaulted "items" Secret.codec.list []))
    (fun items => ⟨items⟩) SecretList.items

end RegistryBench
