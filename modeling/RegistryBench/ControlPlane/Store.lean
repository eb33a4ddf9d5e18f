import Std.Data.ExtTreeMap
import Std.Data.ExtTreeSet
import RegistryBench.Error
import RegistryBench.Resource.ImageStream

/-!
# The store of the control plane

Images by name, streams by namespace and name, and for each stream an index entry: the images
that its tag events name and the manifests of those that are manifest lists. Writing a stream
computes its entry anew; writing an image adds its manifests to the entries that hold the image.
-/

namespace RegistryBench

open Std (ExtTreeMap ExtTreeSet)

/-- What a stream is stored under. -/
structure StreamKey where
  /-- The namespace. -/
  ns : String
  /-- The name. -/
  name : String
deriving DecidableEq

namespace StreamKey

/-- Keys are ordered by namespace, and by name within one. -/
instance : Ord StreamKey :=
  ⟨compareLex (compareOn ns) (compareOn name)⟩

instance : Std.TransOrd StreamKey :=
  inferInstanceAs (Std.TransCmp (compareLex (compareOn ns) (compareOn name)))

instance : Std.LawfulEqOrd StreamKey where
  eq_of_compare {a b} h := by
    have h : compareLex (compareOn ns) (compareOn name) a b = .eq := h
    rw [compareLex_eq_eq] at h
    obtain ⟨ns, name⟩ := a
    obtain ⟨ns', name'⟩ := b
    have hns : compare ns ns' = .eq := h.1
    have hname : compare name name' = .eq := h.2
    rw [Std.LawfulEqCmp.eq_of_compare hns, Std.LawfulEqCmp.eq_of_compare hname]

/-- The key as messages show it. -/
def toText (key : StreamKey) : String :=
  key.ns ++ "/" ++ key.name

end StreamKey

/-- What a stream is stored under. -/
def ImageStream.key (stream : ImageStream) : StreamKey :=
  ⟨stream.metadata.ns, stream.metadata.name⟩

/-- The images and streams of a control plane. -/
structure Store where
  /-- The images by name. -/
  images : ExtTreeMap String Image
  /-- The streams. -/
  streams : ExtTreeMap StreamKey ImageStream
  /-- The index entry of each stream. -/
  layers : ExtTreeMap StreamKey (ExtTreeSet String)

namespace Store

/-- A store with nothing in it. -/
def empty : Store := ⟨∅, ∅, ∅⟩

/-! ### Images -/

/-- The image of some name, if it is stored. -/
def image? (store : Store) (name : String) : Option Image :=
  store.images[name]?

/-- The image of some name. -/
def getImage (store : Store) (name : String) : Except Error Image :=
  match store.image? name with
  | some image => .ok image
  | none => .error (.notFound .image name)

/-- The images in a namespace, or all when it is empty, by name. -/
def listImages (store : Store) (ns : String) : List Image :=
  store.images.values.filter fun image => ns = "" ∨ image.metadata.ns = ns

/-- Add the manifests of an image to an index entry that holds the image. -/
def extend (image : Image) (ids : ExtTreeSet String) : ExtTreeSet String :=
  if image.name ∈ ids then ids.insertMany image.subManifests else ids

/-- Write an image and extend the index by it. -/
def putImage (store : Store) (image : Image) : Store :=
  { store with
    images := store.images.insert image.name image
    layers := store.layers.map fun _ ids => extend image ids }

/-- Writing an image changes what is stored under its name only. -/
theorem image?_putImage (store : Store) (image : Image) (name : String) :
    (store.putImage image).image? name =
      if image.name = name then some image else store.image? name := by
  simp [image?, putImage, ExtTreeMap.getElem?_insert]

@[simp]
theorem streams_putImage (store : Store) (image : Image) :
    (store.putImage image).streams = store.streams := rfl

/-- An image is stored when its name is a key. -/
theorem mem_images_iff (store : Store) (name : String) :
    name ∈ store.images ↔ ∃ image, store.image? name = some image := by
  rw [ExtTreeMap.mem_iff_isSome_getElem?, Option.isSome_iff_exists]
  rfl

/-- Extending an entry adds manifests of an image that the entry holds, and nothing else. -/
theorem mem_extend (image : Image) (ids : ExtTreeSet String) (id : String) :
    id ∈ extend image ids ↔ id ∈ ids ∨ (image.name ∈ ids ∧ id ∈ image.subManifests) := by
  rw [extend]
  split
  · simp [ExtTreeSet.mem_insertMany_list, *]
  · simp [*]

/-- Store a new image as it is. -/
def createImage (store : Store) (image : Image) : Except Error Store :=
  if image.name ∈ store.images then .error (.alreadyExists .image image.name)
  else .ok (store.putImage image)

/-- Replace a stored image by another of its name, as it is. -/
def updateImage (store : Store) (image : Image) : Except Error Store :=
  if image.name ∈ store.images then .ok (store.putImage image)
  else .error (.notFound .image image.name)

/-! ### Streams -/

/-- The stream of some key. -/
def getStream (store : Store) (key : StreamKey) : Except Error ImageStream :=
  match store.streams[key]? with
  | some stream => .ok stream
  | none => .error (.notFound .imageStream key.toText)

/-- Whether a stream of some key is stored. -/
def hasStream (store : Store) (key : StreamKey) : Bool :=
  key ∈ store.streams

/-- The streams in a namespace, or all when it is empty, by namespace and name. -/
def listStreams (store : Store) (ns : String) : List ImageStream :=
  (store.streams.toList.filter fun (key, _) => ns = "" ∨ key.ns = ns).map (·.2)

/-- The manifests of the image of some name; none when it is not stored. -/
def subManifests (store : Store) (name : String) : List String :=
  match store.image? name with
  | some image => image.subManifests
  | none => []

/-- The index entry that a stream should have: the images its tag events name, and the manifests
of those that are stored. -/
def entryFor (store : Store) (stream : ImageStream) : ExtTreeSet String :=
  .ofList (stream.referencedImages.flatMap fun name => name :: store.subManifests name)

/-- Write a stream and compute its index entry. -/
def putStream (store : Store) (stream : ImageStream) : Store :=
  { store with
    streams := store.streams.insert stream.key stream
    layers := store.layers.insert stream.key (store.entryFor stream) }

/-- An entry holds the images that the tag events name and their manifests. -/
theorem mem_entryFor (store : Store) (stream : ImageStream) (id : String) :
    id ∈ store.entryFor stream ↔
      ∃ name ∈ stream.referencedImages, id = name ∨ id ∈ store.subManifests name := by
  simp [entryFor]

@[simp]
theorem images_putStream (store : Store) (stream : ImageStream) :
    (store.putStream stream).images = store.images := rfl

@[simp]
theorem image?_putStream (store : Store) (stream : ImageStream) (name : String) :
    (store.putStream stream).image? name = store.image? name := rfl

/-- Writing a stream changes what is stored under its key only. -/
theorem streams_putStream (store : Store) (stream : ImageStream) (key : StreamKey) :
    (store.putStream stream).streams[key]? =
      if stream.key = key then some stream else store.streams[key]? := by
  simp [putStream, ExtTreeMap.getElem?_insert]

/-- The stream with its time of creation set. -/
def stamp (stream : ImageStream) (created : Option Timestamp) : ImageStream :=
  { stream with metadata.created := created }

/-- Store a new stream, created now. -/
def createStream (store : Store) (now : Timestamp) (stream : ImageStream) :
    Except Error (ImageStream × Store) :=
  if stream.key ∈ store.streams then .error (.alreadyExists .imageStream stream.key.toText)
  else
    let stream := stamp stream (some now)
    .ok (stream, store.putStream stream)

/-- Replace a stored stream by another of its key, which was created when the old one was. -/
def updateStream (store : Store) (stream : ImageStream) : Except Error (ImageStream × Store) :=
  match store.streams[stream.key]? with
  | none => .error (.notFound .imageStream stream.key.toText)
  | some stored =>
    let stream := stamp stream stored.metadata.created
    .ok (stream, store.putStream stream)

/-- The index entry of a stream, if it has one. -/
def layerIndex? (store : Store) (key : StreamKey) : Option (ExtTreeSet String) :=
  store.layers[key]?

/-- Writing an image extends the entries that hold it. -/
theorem layerIndex?_putImage (store : Store) (image : Image) (key : StreamKey) :
    (store.putImage image).layerIndex? key = (store.layerIndex? key).map (extend image) := by
  simp [layerIndex?, putImage]

/-- Writing a stream computes its entry and no other. -/
theorem layerIndex?_putStream (store : Store) (stream : ImageStream) (key : StreamKey) :
    (store.putStream stream).layerIndex? key =
      if stream.key = key then some (store.entryFor stream) else store.layerIndex? key := by
  simp [layerIndex?, putStream, ExtTreeMap.getElem?_insert]

end Store

end RegistryBench
