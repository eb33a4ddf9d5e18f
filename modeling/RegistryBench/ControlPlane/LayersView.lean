import Std.Data.ExtTreeSet
import RegistryBench.ControlPlane.Derivation
import RegistryBench.Resource.ImageStream

/-!
# The layers view

The blobs that a set of images refers to, and for each image its references: layers, config and
manifests. Images are shown with derived metadata, or as they are stored when that fails. An id
without an image has an entry that says so.
-/

namespace RegistryBench

open Std (ExtTreeMap ExtTreeSet)

/-- The blobs and images that a set of ids refers to. -/
structure LayersView where
  /-- The blobs by digest. -/
  blobs : ExtTreeMap String BlobData
  /-- The references of each image by id. -/
  images : ExtTreeMap String BlobReferences
deriving DecidableEq

namespace LayersView

/-- A view of nothing. -/
def empty : LayersView := ⟨∅, ∅⟩

/-- The module that reports about layers views. -/
def reporter : String := "regharness::fake::layers"

/-- An image with derived metadata, or as it is when that fails, with what is reported. -/
def enrich (image : Image) : Image × List Log.Event :=
  match image.derive with
  | (.ok outcome, enriched) => (enriched, outcome.events image.name)
  | (.error fault, _) =>
    (image, [.debug reporter "using stored metadata"
      [("image", image.name), ("error", (Error.badRequest fault).message)]])

/-- An image whose metadata can be derived is shown with it. -/
theorem enrich_of_derive {image derived : Image} {outcome : Derivation}
    (h : image.derive = (.ok outcome, derived)) : (enrich image).1 = derived := by
  simp only [enrich, h]

/-- The config that is a blob of its own: that of a docker schema 2 image, when it is known. -/
def configBlob? (image : Image) : Option String :=
  if image.effectiveMediaType = MediaType.dockerManifest then image.metadataId? else none

/-- What is known about the config of an image. -/
def configData (image : Image) : BlobData :=
  let size := (Text.utf8 image.config).length
  ⟨if size = 0 then none else some size, MediaType.dockerConfig⟩

/-- Note a layer, unless something is known under its digest. -/
def addLayer (blobs : ExtTreeMap String BlobData) (layer : ImageLayer) :
    ExtTreeMap String BlobData :=
  blobs.insertIfNew layer.name ⟨some layer.size, layer.mediaType⟩

/-- The blobs with those of an image: its layers where nothing is known, then its config and its
manifest in place of what was known. -/
def addBlobs (blobs : ExtTreeMap String BlobData) (id : String) (image : Image) :
    ExtTreeMap String BlobData :=
  let blobs := image.layers.foldl addLayer blobs
  let blobs :=
    match configBlob? image with
    | some config => blobs.insert config (configData image)
    | none => blobs
  blobs.insert id ⟨none, image.effectiveMediaType⟩

/-- The references of an image. -/
def references (image : Image) : BlobReferences where
  layers := image.layers.map ImageLayer.name
  config := configBlob? image
  manifests := image.subManifests

/-- The references of an image do not depend on its payloads. -/
theorem references_without_payloads (image : Image) :
    references { image with manifest := "", config := "" } = references image := rfl

/-- Add an id to a view. -/
def add (lookup : String → Option Image) (view : LayersView) (id : String) : LayersView :=
  match lookup id with
  | none => { view with images := view.images.insert id { imageMissing := true } }
  | some stored =>
    let image := (enrich stored).1
    { blobs := addBlobs view.blobs id image, images := view.images.insert id (references image) }

/-- The view of a set of ids, added in ascending order. -/
def build (ids : ExtTreeSet String) (lookup : String → Option Image) : LayersView :=
  ids.toList.foldl (add lookup) empty

/-- The references of the image of some id, or that there is no image. -/
def entry (lookup : String → Option Image) (id : String) : BlobReferences :=
  match lookup id with
  | none => { imageMissing := true }
  | some stored => references (enrich stored).1

/-- An image whose metadata can be derived has the references that it then has. -/
theorem entry_of_derive {lookup : String → Option Image} {id : String}
    {stored derived : Image} {outcome : Derivation} (hstored : lookup id = some stored)
    (hderive : stored.derive = (.ok outcome, derived)) : entry lookup id = references derived := by
  rw [entry, hstored]
  exact congrArg references (enrich_of_derive hderive)

/-- Adding an id makes its entry and no other. -/
theorem images_add (lookup : String → Option Image) (view : LayersView) (id other : String) :
    (view.add lookup id).images[other]? =
      if id = other then some (entry lookup id) else view.images[other]? := by
  rw [add, entry]
  cases lookup id with
  | none => simp [ExtTreeMap.getElem?_insert]
  | some stored => simp [ExtTreeMap.getElem?_insert]

/-- Each image that is added has an entry, be it stored or not. -/
theorem images_foldl_add (lookup : String → Option Image) (ids : List String)
    (view : LayersView) (id : String) :
    (ids.foldl (add lookup) view).images[id]? =
      if id ∈ ids then some (entry lookup id) else view.images[id]? := by
  induction ids generalizing view with
  | nil => simp
  | cons first ids ih =>
    rw [List.foldl_cons, ih, images_add]
    by_cases hid : id ∈ ids
    · simp [hid]
    · by_cases hfirst : first = id
      · simp [hfirst]
      · simp [hid, hfirst, Ne.symm hfirst]

/-- A view has the entries of its ids. -/
theorem images_build (ids : ExtTreeSet String) (lookup : String → Option Image) (id : String) :
    (build ids lookup).images[id]? = if id ∈ ids then some (entry lookup id) else none := by
  rw [build, images_foldl_add]
  simp [empty]

/-- What building a view reports. -/
def events (ids : ExtTreeSet String) (lookup : String → Option Image) : List Log.Event :=
  (ids.toList.filterMap lookup).flatMap fun image => (enrich image).2

end LayersView

end RegistryBench
