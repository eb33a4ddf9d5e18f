import RegistryBench.Proofs.ControlPlane.ImageVersions

/-!
# References to the manifests of a list

An image that is created gets its references to manifests from its payload when it is a manifest
list, whatever references it came with. Nothing else writes references: an image that is no
manifest list keeps those it came with, and an image that replaces another one is stored as it is.

* `matchesPayload_of_filled`: what creation makes of a manifest list.
* `references_of_stored` says for every run where the references of a stored image come from, and
  `references_without_match` that they need not be those of the payload.
-/

namespace RegistryBench

/-- What a reference to a manifest has of the entry that it stands for. -/
def ImageManifest.described (m : ImageManifest) : String × String × Nat :=
  (m.digest, m.mediaType, m.manifestSize)

/-- What a reference to a manifest takes from the entry of a list. -/
def Descriptor.described (d : Descriptor) : String × String × Nat :=
  (d.digest, d.mediaType, d.size)

namespace Image

/-- The manifests that the payload lists, when it can be read as a manifest list. -/
def listed? (image : Image) : Option (List Descriptor) :=
  match Payload.parse image.manifestMediaType (Text.utf8 image.manifest) with
  | .ok (.index list) => some list.manifests
  | .ok (.image _) | .error _ => none

/-- A manifest list refers to the manifests of its payload, one by one and in order, and another
image to none. -/
def MatchesPayload (image : Image) : Prop :=
  if image.isManifestList then
    image.listed?.map (·.map Descriptor.described) =
      some (image.manifests.map ImageManifest.described)
  else image.manifests = []

instance (image : Image) : Decidable image.MatchesPayload :=
  inferInstanceAs (Decidable (if image.isManifestList then
    image.listed?.map (·.map Descriptor.described) =
      some (image.manifests.map ImageManifest.described)
    else image.manifests = []))

/-- A manifest list that is filled in refers to the manifests of its payload, whatever it referred
to before. -/
theorem matchesPayload_of_filled {image expanded : Image} (h : image.Filled expanded)
    (hlist : image.isManifestList = true) :
    expanded.isManifestList = true ∧ expanded.MatchesPayload := by
  cases h with
  | @list list _ hread =>
    have hlisted (references : List ImageManifest) :
        listed? { image with manifests := references } = some list.manifests := by
      unfold listed?
      simp only [Payload.parse_of_isIndex hlist, hread]
    -- a reference has what the entry says: nothing is lost when it is made
    refine ⟨hlist, (if_pos hlist).mpr ?_⟩
    rw [hlisted, Option.map_some, List.map_map]
    rfl
  | plain hplain =>
    rw [hlist] at hplain
    contradiction

end Image

namespace ControlPlane

/-- The references of a stored image: an image that has replaced another one is stored as it is.
Otherwise a manifest list refers to the manifests of its payload, whatever it referred to when it
was offered, and another image is stored as it was offered first. -/
theorem references_of_stored (operations : List (Timestamp × Operation)) (name : String)
    (image : Image) (hstored : (empty.after operations).store.image? name = some image) :
    (∀ replacement, (replacements name (empty.transcript operations)).getLast? =
        some replacement → image = replacement) ∧
      (replacements name (empty.transcript operations) = [] →
        if image.isManifestList then image.MatchesPayload
        else (offers name (empty.transcript operations)).head? = some image) := by
  have hversioned := versioned_after operations name
  have himage := hversioned.image?_eq
  rw [hstored] at himage
  refine ⟨fun replacement hlast => ?_, fun hnone => ?_⟩
  · -- what has replaced an image takes precedence over all that was offered
    rw [hlast, Option.some_or] at himage
    exact Option.some.inj himage
  · rw [hnone, List.getLast?_nil, Option.none_or] at himage
    obtain ⟨offered, hoffered, hexpanded⟩ := Option.bind_eq_some_iff.1 himage.symm
    obtain ⟨expanded, hexpand⟩ := hversioned.expand_head hoffered
    rw [hexpand] at hexpanded
    obtain rfl : expanded = image := Option.some.inj hexpanded
    -- filling in keeps the media type, so that the offered image decides which half applies
    cases hlist : offered.isManifestList with
    | true =>
      obtain ⟨hlist, hmatches⟩ :=
        Image.matchesPayload_of_filled (Image.expand_eq_ok_iff.1 hexpand) hlist
      rw [if_pos hlist]
      exact hmatches
    | false =>
      obtain rfl := Except.ok.inj ((Image.expand_of_not_list hlist).symm.trans hexpand)
      rw [hlist]
      exact hoffered

section Unmatched

/-- An image that is no manifest list, with some references all the same. -/
def plainWith (manifests : List ImageManifest) : Image :=
  { metadata := { name := "plain" }, manifestMediaType := MediaType.ociManifest, manifests }

/-- An index is created with wrong references. -/
def filledIn : List (Timestamp × Operation) :=
  [(⟨0, 0⟩, .createImage (indexWith [⟨"other", "type", 1, "", ""⟩]))]

/-- An image that is no manifest list is created with references, and another one is replaced by an
index without. -/
def leftAsGiven : List (Timestamp × Operation) :=
  [(⟨0, 0⟩, .createImage (plainWith [⟨"digest", "type", 3, "", ""⟩])),
    (⟨1, 0⟩, .createImage { metadata := { name := "index" } }),
    (⟨2, 0⟩, .updateImage (indexWith []))]

/-- An image that is no manifest list can have references, and an index can be without those of its
payload. -/
theorem references_without_match :
    let store := (empty.after leftAsGiven).store
    (∃ plain, store.image? "plain" = some plain ∧ ¬ plain.MatchesPayload) ∧
      ∃ index, store.image? "index" = some index ∧ ¬ index.MatchesPayload := by
  intro store
  have hplain : (store.image? "plain").map (fun image => decide image.MatchesPayload) =
      some false := by decide +kernel
  have hindex : (store.image? "index").map (fun image => decide image.MatchesPayload) =
      some false := by decide +kernel
  obtain ⟨plain, hplain, hfalse⟩ := Option.map_eq_some_iff.1 hplain
  obtain ⟨index, hindex, hfalse'⟩ := Option.map_eq_some_iff.1 hindex
  exact ⟨⟨plain, hplain, of_decide_eq_false hfalse⟩, index, hindex, of_decide_eq_false hfalse'⟩

/-- The references that an index is created with are put right; those that another image is created
with stay, and so do those of an index that replaces an image. -/
theorem references_of_stored_created :
    (∃ index, (empty.after filledIn).store.image? "index" = some index ∧ index.MatchesPayload) ∧
      let store := (empty.after leftAsGiven).store
      (∃ plain, store.image? "plain" = some plain ∧
        plain.manifests = [⟨"digest", "type", 3, "", ""⟩]) ∧
      ∃ index, store.image? "index" = some index ∧ index.manifests = [] := by
  have hfilled : ((empty.after filledIn).store.image? "index").map (·.isManifestList) =
      some true := by decide +kernel
  have hplain : ((empty.after leftAsGiven).store.image? "plain").map (·.isManifestList) =
      some false := by decide +kernel
  have hindex : ((empty.after leftAsGiven).store.image? "index").isSome = true := by decide +kernel
  obtain ⟨filled, hfilled, hlist⟩ := Option.map_eq_some_iff.1 hfilled
  obtain ⟨plain, hplain, hnone⟩ := Option.map_eq_some_iff.1 hplain
  obtain ⟨index, hindex⟩ := Option.isSome_iff_exists.1 hindex
  refine ⟨⟨filled, hfilled, ?_⟩, ⟨plain, hplain, ?_⟩, index, hindex, ?_⟩
  · have hmatches := (references_of_stored filledIn "index" filled hfilled).2 (by decide +kernel)
    rw [if_pos hlist] at hmatches
    exact hmatches
  · have hkept := (references_of_stored leftAsGiven "plain" plain hplain).2 rfl
    rw [hnone] at hkept
    obtain rfl : plainWith [⟨"digest", "type", 3, "", ""⟩] = plain := Option.some.inj hkept
    rfl
  · obtain rfl := (references_of_stored leftAsGiven "index" index hindex).1 (indexWith []) rfl
    rfl

end Unmatched

end ControlPlane

end RegistryBench
