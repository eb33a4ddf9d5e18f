import RegistryBench.Proofs.ControlPlane.ReferencedBlobs

/-!
# The graph that a layers view shows

A layers view goes through its ids in ascending order. Each id that has an image notes the layers of
the image where nothing is known, then writes its config, and then its manifest. So what a view says
about a blob in the end is what the last config or manifest written under its digest says, or else
what the first layer of that name says (`getElem?_blobs_build`). A view has an entry for each of its
ids, and a blob for each digest that an entry refers to: nothing dangles, and no blob stands alone.

* `referenceGraph_build`: building a view gives the graph of references that `ReferenceGraph`
  describes, and what it says about an id depends on the image of that id only.
-/

namespace RegistryBench.LayersView

open Std (ExtTreeMap ExtTreeSet)

/-! ### What is known about a blob -/

/-- What a layer says about its blob. -/
def layerData (layer : ImageLayer) : BlobData :=
  ⟨some layer.size, layer.mediaType⟩

/-- What the first layer of some name says. -/
def firstLayer? (digest : String) (layers : List ImageLayer) : Option BlobData :=
  (layers.find? fun layer => layer.name == digest).map layerData

/-- What the last of some writes under a digest says. -/
def lastWrite? (digest : String) (writes : List (String × BlobData)) : Option BlobData :=
  writes.reverse.lookup digest

/-- What an image writes, be something known or not: its config, where that is a blob of its own,
and then its manifest under the id of the image. -/
def ownBlobs (id : String) (image : Image) : List (String × BlobData) :=
  ((configBlob? image).map fun config => (config, configData image)).toList ++
    [(id, ⟨none, image.effectiveMediaType⟩)]

@[simp]
theorem firstLayer?_nil (digest : String) : firstLayer? digest [] = none := rfl

@[simp]
theorem lastWrite?_nil (digest : String) : lastWrite? digest [] = none := rfl

/-- The first layers decide on a digest, and the later ones only where these say nothing. -/
theorem firstLayer?_append (digest : String) (layers more : List ImageLayer) :
    firstLayer? digest (layers ++ more) =
      (firstLayer? digest layers).or (firstLayer? digest more) := by
  rw [firstLayer?, List.find?_append, Option.map_or]
  rfl

/-- The later writes decide on a digest, and the first ones only where these say nothing. -/
theorem lastWrite?_append (digest : String) (writes later : List (String × BlobData)) :
    lastWrite? digest (writes ++ later) =
      (lastWrite? digest later).or (lastWrite? digest writes) := by
  rw [lastWrite?, List.reverse_append, List.lookup_append]
  rfl

/-- A table shows what is written into it last. -/
theorem getElem?_insert_eq_or (blobs : ExtTreeMap String BlobData) (key digest : String)
    (data : BlobData) :
    (blobs.insert key data)[digest]? = (lastWrite? digest [(key, data)]).or blobs[digest]? := by
  simp only [ExtTreeMap.getElem?_insert, Std.LawfulEqCmp.compare_eq_iff_eq, lastWrite?,
    List.reverse_singleton]
  by_cases hkey : key = digest
  · simp [hkey]
  · have hne : (digest == key) = false := beq_eq_false_iff_ne.2 (Ne.symm hkey)
    simp [hkey, List.lookup_cons, hne]

/-- Something is written last under a digest when something is written under it. -/
theorem isSome_lastWrite?_iff (digest : String) (writes : List (String × BlobData)) :
    (lastWrite? digest writes).isSome ↔ ∃ data, (digest, data) ∈ writes := by
  simp [lastWrite?, List.lookup_isSome_iff]

/-- Noting a layer adds what it says, unless something is known. -/
theorem getElem?_addLayer (blobs : ExtTreeMap String BlobData) (layer : ImageLayer)
    (digest : String) :
    (addLayer blobs layer)[digest]? = blobs[digest]?.or (firstLayer? digest [layer]) := by
  simp only [addLayer, ExtTreeMap.getElem?_insertIfNew, Std.LawfulEqCmp.compare_eq_iff_eq,
    ExtTreeMap.mem_iff_isSome_getElem?]
  by_cases hname : layer.name = digest
  · subst hname
    cases hknown : blobs[layer.name]? with
    | none => simp [firstLayer?, layerData]
    | some known => simp
  · simp [hname, firstLayer?]

/-- Of several layers of one name, the first one is noted. -/
theorem getElem?_foldl_addLayer (layers : List ImageLayer) (blobs : ExtTreeMap String BlobData)
    (digest : String) :
    (layers.foldl addLayer blobs)[digest]? = blobs[digest]?.or (firstLayer? digest layers) := by
  induction layers generalizing blobs with
  | nil => simp
  | cons layer layers ih =>
    rw [List.foldl_cons, ih, getElem?_addLayer, Option.or_assoc, ← firstLayer?_append]
    rfl

/-- An image replaces what is known by its own blobs, and adds its layers where nothing is known. -/
theorem getElem?_addBlobs (blobs : ExtTreeMap String BlobData) (id : String) (image : Image)
    (digest : String) :
    (addBlobs blobs id image)[digest]? =
      (lastWrite? digest (ownBlobs id image)).or
        (blobs[digest]?.or (firstLayer? digest image.layers)) := by
  rw [← getElem?_foldl_addLayer, ownBlobs, lastWrite?_append, addBlobs, getElem?_insert_eq_or,
    Option.or_assoc]
  -- the manifest is written after the config
  cases configBlob? image with
  | none => rfl
  | some config => exact congrArg _ (getElem?_insert_eq_or _ _ _ _)

/-! ### The whole view -/

variable (lookup : String → Option Image)

/-- The image that a view shows for an id: the one that is looked up, with derived metadata, or as
it is when deriving fails. -/
def shown? (id : String) : Option Image :=
  (lookup id).map fun stored => (enrich stored).1

/-- The layers that the images of some ids note, in their order. -/
def notedLayers (ids : List String) : List ImageLayer :=
  ids.flatMap fun id => ((shown? lookup id).map Image.layers).getD []

/-- The configs and manifests that the images of some ids write, in their order. -/
def ownWrites (ids : List String) : List (String × BlobData) :=
  ids.flatMap fun id => ((shown? lookup id).map (ownBlobs id)).getD []

/-- An id writes the blobs of its image and notes its layers, if there is one. -/
theorem getElem?_blobs_add (view : LayersView) (id digest : String) :
    (view.add lookup id).blobs[digest]? =
      (lastWrite? digest (ownWrites lookup [id])).or
        (view.blobs[digest]?.or (firstLayer? digest (notedLayers lookup [id]))) := by
  simp only [add, ownWrites, notedLayers, List.flatMap_singleton, shown?]
  cases lookup id with
  | none => simp
  | some stored => exact getElem?_addBlobs _ _ _ _

/-- What several images leave of a blob: the last write of their own, or what was there, or the
first layer that notes it. -/
theorem getElem?_blobs_foldl_add (ids : List String) (view : LayersView) (digest : String) :
    (ids.foldl (add lookup) view).blobs[digest]? =
      (lastWrite? digest (ownWrites lookup ids)).or
        (view.blobs[digest]?.or (firstLayer? digest (notedLayers lookup ids))) := by
  -- the view is general, since the ids after the first one start with what that one has left
  induction ids generalizing view with
  | nil => simp [ownWrites, notedLayers]
  | cons first ids ih =>
    -- later writes come first in the choice, and later layers last
    have hwrites : ownWrites lookup (first :: ids) =
        ownWrites lookup [first] ++ ownWrites lookup ids := by
      simp [ownWrites]
    have hlayers : notedLayers lookup (first :: ids) =
        notedLayers lookup [first] ++ notedLayers lookup ids := by
      simp [notedLayers]
    rw [List.foldl_cons, ih, getElem?_blobs_add, hwrites, hlayers, lastWrite?_append,
      firstLayer?_append]
    simp only [Option.or_assoc]

/-- What a view says about a blob: what is written last under its digest, or else what the first
layer of that name says. -/
theorem getElem?_blobs_build (ids : ExtTreeSet String) (digest : String) :
    (build ids lookup).blobs[digest]? =
      (lastWrite? digest (ownWrites lookup ids.toList)).or
        (firstLayer? digest (notedLayers lookup ids.toList)) := by
  rw [build, getElem?_blobs_foldl_add]
  simp [empty]

/-- Some of the ids has an image that writes under a digest: its manifest, when the digest is the
id, or its config. -/
def IsOwned (ids : ExtTreeSet String) (digest : String) : Prop :=
  ∃ id ∈ ids, ∃ image, shown? lookup id = some image ∧
    (digest = id ∨ configBlob? image = some digest)

/-- An image writes under its id and under the digest of its config. -/
theorem exists_mem_ownBlobs_iff (id : String) (image : Image) (digest : String) :
    (∃ data, (digest, data) ∈ ownBlobs id image) ↔
      digest = id ∨ configBlob? image = some digest := by
  rw [ownBlobs]
  cases configBlob? image with
  | none => simp
  | some config => simp [or_comm, exists_or, eq_comm]

/-- What is read off an image, when there is one. -/
theorem mem_getD_map_iff {β : Type} {shown : Option Image} {values : Image → List β} {value : β} :
    value ∈ (shown.map values).getD [] ↔ ∃ image, shown = some image ∧ value ∈ values image := by
  cases shown with
  | none => simp
  | some image => simp

/-- What ids write is what their images write. -/
theorem mem_ownWrites_iff {ids : List String} {write : String × BlobData} :
    write ∈ ownWrites lookup ids ↔
      ∃ id ∈ ids, ∃ image, shown? lookup id = some image ∧ write ∈ ownBlobs id image := by
  simp only [ownWrites, List.mem_flatMap, mem_getD_map_iff]

/-- Something is written last under the digests that are owned. -/
theorem isSome_lastWrite?_ownWrites_iff (ids : ExtTreeSet String) (digest : String) :
    (lastWrite? digest (ownWrites lookup ids.toList)).isSome ↔ IsOwned lookup ids digest := by
  rw [isSome_lastWrite?_iff, IsOwned]
  simp only [← exists_mem_ownBlobs_iff, mem_ownWrites_iff, ExtTreeSet.mem_toList]
  constructor
  · rintro ⟨data, id, hid, image, hshown, hmem⟩
    exact ⟨id, hid, image, hshown, data, hmem⟩
  · rintro ⟨id, hid, image, hshown, data, hmem⟩
    exact ⟨data, id, hid, image, hshown, hmem⟩

variable {lookup} in
/-- Nothing is written under the other digests. -/
theorem lastWrite?_ownWrites_eq_none {ids : ExtTreeSet String} {digest : String}
    (hother : ¬ IsOwned lookup ids digest) :
    lastWrite? digest (ownWrites lookup ids.toList) = none := by
  rwa [← isSome_lastWrite?_ownWrites_iff, Option.not_isSome_iff_eq_none] at hother

variable {lookup} in
/-- What is written last under a digest that is owned stands before anything else. -/
theorem lastWrite?_ownWrites_or {ids : ExtTreeSet String} {digest : String}
    (howned : IsOwned lookup ids digest) (other : Option BlobData) :
    (lastWrite? digest (ownWrites lookup ids.toList)).or other =
      lastWrite? digest (ownWrites lookup ids.toList) := by
  rw [← isSome_lastWrite?_ownWrites_iff] at howned
  exact Option.or_of_isSome howned

/-- The graph of references of the images of some ids, as a view shows it. -/
structure ReferenceGraph (ids : ExtTreeSet String) (view : LayersView) : Prop where
  /-- Every id has an entry, and nothing else has one. -/
  mem_images_iff : ∀ id, id ∈ view.images ↔ id ∈ ids
  /-- An id without an image has an entry that is empty and says so. -/
  missing : ∀ id ∈ ids, lookup id = none → view.images[id]? = some { imageMissing := true }
  /-- An id with an image has an entry with the layers of the image in their order, the config of a
  docker schema 2 image that is known, and the manifests of a list in their order. -/
  entry_eq : ∀ id ∈ ids, ∀ image, shown? lookup id = some image → view.images[id]? = some {
    layers := image.layers.map ImageLayer.name
    config :=
      if image.effectiveMediaType = MediaType.dockerManifest then image.metadataId? else none
    manifests := image.manifests.map ImageManifest.digest
    imageMissing := false }
  /-- There is a blob for each id with an image and for each layer and config in the entries, and no
  other one. -/
  mem_blobs_iff : ∀ digest, digest ∈ view.blobs ↔
    IsOwned lookup ids digest ∨
      ∃ id ∈ ids, ∃ image, shown? lookup id = some image ∧
        digest ∈ image.layers.map ImageLayer.name
  /-- The ids are gone through in ascending order. -/
  ascending : ids.toList.Pairwise fun first second => compare first second = .lt
  /-- The last config or manifest that is written under a digest says what the blob is. -/
  owned : ∀ digest, IsOwned lookup ids digest →
    view.blobs[digest]? = lastWrite? digest (ownWrites lookup ids.toList)
  /-- Under any other digest, the first layer of that name says what the blob is. -/
  noted : ∀ digest, ¬ IsOwned lookup ids digest →
    view.blobs[digest]? = firstLayer? digest (notedLayers lookup ids.toList)

variable {lookup}

/-- An id has an image to be shown when it is looked up. -/
theorem shown?_eq_none_iff {id : String} : shown? lookup id = none ↔ lookup id = none :=
  Option.map_eq_none_iff

/-- The entry of an id has the references of the image that is shown. -/
theorem entry_of_shown? {id : String} {image : Image} (h : shown? lookup id = some image) :
    entry lookup id = references image := by
  obtain ⟨stored, hstored, rfl⟩ := Option.map_eq_some_iff.1 h
  rw [entry, hstored]

/-- The graph says of every blob what is written last, or else what is noted first. -/
theorem ReferenceGraph.getElem?_blobs {ids : ExtTreeSet String} {view : LayersView}
    (h : ReferenceGraph lookup ids view) (digest : String) :
    view.blobs[digest]? =
      (lastWrite? digest (ownWrites lookup ids.toList)).or
        (firstLayer? digest (notedLayers lookup ids.toList)) := by
  by_cases howned : IsOwned lookup ids digest
  · rw [h.owned digest howned, lastWrite?_ownWrites_or howned]
  · rw [h.noted digest howned, lastWrite?_ownWrites_eq_none howned, Option.none_or]

/-- A view of ids that are looked up shows the graph of their references. -/
theorem referenceGraph_of_build (ids : ExtTreeSet String) :
    ReferenceGraph lookup ids (build ids lookup) where
  mem_images_iff id := by
    rw [ExtTreeMap.mem_iff_isSome_getElem?, images_build]
    split
    next hid => simp [hid]
    next hid => simp [hid]
  missing id hid hnone := by
    rw [images_build, if_pos hid, entry, hnone]
  entry_eq id hid image hshown := by
    rw [images_build, if_pos hid, entry_of_shown? hshown]
    rfl
  mem_blobs_iff digest := by
    -- what refers to a blob is an entry: its id and its config are owned, its layers are noted
    rw [mem_blobs_build_iff, IsOwned]
    constructor
    · rintro ⟨id, hid, hsome, hdigest⟩
      obtain ⟨image, hshown⟩ := Option.ne_none_iff_exists'.1 (mt shown?_eq_none_iff.1 hsome)
      rw [entry_of_shown? hshown] at hdigest
      obtain hdigest | hdigest | hdigest := hdigest
      · exact Or.inl ⟨id, hid, image, hshown, Or.inl hdigest⟩
      · exact Or.inr ⟨id, hid, image, hshown, hdigest⟩
      · exact Or.inl ⟨id, hid, image, hshown, Or.inr hdigest⟩
    · rintro (⟨id, hid, image, hshown, hdigest⟩ | ⟨id, hid, image, hshown, hdigest⟩)
      · refine ⟨id, hid, mt shown?_eq_none_iff.2 (hshown ▸ Option.some_ne_none image), ?_⟩
        rw [entry_of_shown? hshown]
        exact hdigest.imp_right Or.inr
      · refine ⟨id, hid, mt shown?_eq_none_iff.2 (hshown ▸ Option.some_ne_none image), ?_⟩
        rw [entry_of_shown? hshown]
        exact Or.inr (Or.inl hdigest)
  ascending := ExtTreeSet.ordered_toList
  owned digest howned := by
    rw [getElem?_blobs_build, lastWrite?_ownWrites_or howned]
  noted digest hother := by
    rw [getElem?_blobs_build, lastWrite?_ownWrites_eq_none hother, Option.none_or]

section Shared

/-- A docker image that has a layer twice and a config with the name of another image, a broken
image that shares the layer, and an index with a layer of the name of an image. -/
def sharing : String → Option Image
  | "docker" => some {
      layers := [⟨"base", 5, "gzip"⟩, ⟨"top", 6, "gzip"⟩, ⟨"base", 7, "tar"⟩]
      dockerMetadata := some { id := "index" } }
  | "broken" => some { manifest := "none", layers := [⟨"base", 8, "tar"⟩, ⟨"low", 9, "tar"⟩] }
  | "index" => some {
      manifestMediaType := MediaType.ociIndex
      layers := [⟨"docker", 4, "tar"⟩]
      manifests := [⟨"docker", "manifest", 10, "", ""⟩] }
  | _ => none

end Shared

end RegistryBench.LayersView
