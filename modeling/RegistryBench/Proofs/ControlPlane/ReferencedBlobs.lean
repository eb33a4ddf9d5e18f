import RegistryBench.ControlPlane.LayersView

/-!
# The blobs of a layers view

A layers view notes the blobs that its images refer to, and no others: the manifest of each image
under its id, its layers, and its config where that is a blob of its own
(`mem_blobs_build_iff`). An id without an image adds none.
-/

namespace RegistryBench.LayersView

open Std (ExtTreeMap ExtTreeSet)

/-- Noting a layer adds its digest, be something known under it or not. -/
theorem mem_addLayer_iff (blobs : ExtTreeMap String BlobData) (layer : ImageLayer)
    (digest : String) :
    digest ∈ addLayer blobs layer ↔ digest ∈ blobs ∨ digest = layer.name := by
  rw [addLayer, ExtTreeMap.mem_insertIfNew, Std.LawfulEqCmp.compare_eq_iff_eq, eq_comm, or_comm]

/-- Adding layers adds their digests and no others. -/
theorem mem_foldl_addLayer_iff (layers : List ImageLayer) (blobs : ExtTreeMap String BlobData)
    (digest : String) :
    digest ∈ layers.foldl addLayer blobs ↔
      digest ∈ blobs ∨ digest ∈ layers.map ImageLayer.name := by
  induction layers generalizing blobs with
  | nil => simp
  | cons layer layers ih =>
    rw [List.foldl_cons, ih, mem_addLayer_iff, List.map_cons, List.mem_cons, or_assoc]

/-- Adding the blobs of an image adds those that it refers to, and its manifest under its id. -/
theorem mem_addBlobs_iff (blobs : ExtTreeMap String BlobData) (id : String) (image : Image)
    (digest : String) :
    digest ∈ addBlobs blobs id image ↔
      digest ∈ blobs ∨ digest = id ∨ digest ∈ (references image).layers ∨
        (references image).config = some digest := by
  have hlayers := mem_foldl_addLayer_iff image.layers blobs digest
  simp only [addBlobs, references]
  cases configBlob? image with
  | none =>
    rw [ExtTreeMap.mem_insert, Std.LawfulEqCmp.compare_eq_iff_eq, hlayers]
    simp [or_left_comm, eq_comm]
  | some config =>
    rw [ExtTreeMap.mem_insert, ExtTreeMap.mem_insert, Std.LawfulEqCmp.compare_eq_iff_eq,
      Std.LawfulEqCmp.compare_eq_iff_eq, hlayers]
    -- the config comes last on the right, and first on the left
    simp [or_left_comm, or_comm, eq_comm]

/-- An id adds the blobs of its image to a view, if there is one. -/
theorem mem_blobs_add_iff (lookup : String → Option Image) (view : LayersView)
    (id digest : String) :
    digest ∈ (view.add lookup id).blobs ↔
      digest ∈ view.blobs ∨ lookup id ≠ none ∧
        (digest = id ∨ digest ∈ (entry lookup id).layers ∨
          (entry lookup id).config = some digest) := by
  rw [add, entry]
  cases lookup id with
  | none => simp
  | some stored => simp [mem_addBlobs_iff]

/-- Adding images adds their own ids, the digests of their layers and that of their configs. -/
theorem mem_blobs_foldl_add_iff (lookup : String → Option Image) (ids : List String)
    (view : LayersView) (digest : String) :
    digest ∈ (ids.foldl (add lookup) view).blobs ↔
      digest ∈ view.blobs ∨ ∃ id ∈ ids, lookup id ≠ none ∧
        (digest = id ∨ digest ∈ (entry lookup id).layers ∨
          (entry lookup id).config = some digest) := by
  induction ids generalizing view with
  | nil => simp
  | cons first ids ih =>
    rw [List.foldl_cons, ih, mem_blobs_add_iff, or_assoc]
    simp only [List.mem_cons, exists_eq_or_imp]

/-- The blobs of a view are the manifests of the ids that have an image, and the layers and configs
in the entries. -/
theorem mem_blobs_build_iff (ids : ExtTreeSet String) (lookup : String → Option Image)
    (digest : String) :
    digest ∈ (build ids lookup).blobs ↔
      ∃ id ∈ ids, lookup id ≠ none ∧
        (digest = id ∨ digest ∈ (entry lookup id).layers ∨
          (entry lookup id).config = some digest) := by
  rw [build, mem_blobs_foldl_add_iff]
  simp [empty]

end RegistryBench.LayersView
