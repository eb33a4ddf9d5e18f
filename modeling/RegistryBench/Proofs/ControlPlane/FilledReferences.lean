import RegistryBench.ControlPlane.Expansion
import RegistryBench.Proofs.Manifest.Payloads

/-!
# Filling in references to manifests

An image that is a manifest list by its media type must have a payload that is one. It then refers
to the entries of that list, whatever it referred to before. `Image.Filled` says what becomes of an
image without going through its payload step by step.

* `expand_eq_ok_iff`: filling in makes of an image what `Filled` says.
* `exists_expand_eq_error_iff`: it fails only for a manifest list that cannot be read.
-/

namespace RegistryBench

namespace Image

/-- An image whose references to manifests have been filled in. -/
inductive Filled (image : Image) : Image → Prop
  /-- A manifest list refers to the entries of its payload, in their order, by the digest, the media
  type and the size of each. Nothing is said of their platforms. -/
  | list {list : ManifestList} (hlist : image.isManifestList = true)
      (hread : ManifestList.codec.ofBytes? (Text.utf8 image.manifest) = some list) :
      Filled image { image with
        manifests := list.manifests.map fun entry =>
          { digest := entry.digest, mediaType := entry.mediaType, manifestSize := entry.size,
            architecture := "", os := "" } }
  /-- Another image keeps the references that it came with. -/
  | plain (hlist : image.isManifestList = false) : Filled image image

/-- The image is a manifest list by its media type, and its payload is none. -/
def IsUnreadableList (image : Image) : Prop :=
  image.isManifestList = true ∧ ManifestList.codec.ofBytes? (Text.utf8 image.manifest) = none

/-- An image that is no manifest list is stored as it is offered. -/
theorem expand_of_not_list {image : Image} (hlist : image.isManifestList = false) :
    image.expand = .ok image := by
  rw [expand, hlist]
  rfl

/-- What is stored for a manifest list is decided by reading its payload. -/
theorem expand_of_list {image : Image} (hlist : image.isManifestList = true) :
    image.expand =
      match ManifestList.codec.ofBytes? (Text.utf8 image.manifest) with
      | some list => .ok { image with manifests := list.manifests.map ImageManifest.ofDescriptor }
      | none => .error (.payload image.name (.invalid image.manifestMediaType)) := by
  rw [expand, if_pos hlist, Payload.parse_of_isIndex hlist]
  cases ManifestList.codec.ofBytes? (Text.utf8 image.manifest) with
  | none => rfl
  | some list => rfl

/-- The manifests of an image are filled in as `Filled` says, and in no other way. -/
theorem expand_eq_ok_iff {image expanded : Image} :
    image.expand = .ok expanded ↔ image.Filled expanded := by
  constructor
  · intro h
    cases hlist : image.isManifestList with
    | true =>
      rw [expand_of_list hlist] at h
      -- a list is filled in only after its payload has been read
      cases hread : ManifestList.codec.ofBytes? (Text.utf8 image.manifest) with
      | none =>
        rw [hread] at h
        contradiction
      | some list =>
        rw [hread] at h
        obtain rfl := Except.ok.inj h
        exact .list hlist hread
    | false =>
      rw [expand_of_not_list hlist] at h
      obtain rfl := Except.ok.inj h
      exact .plain hlist
  · rintro (⟨hlist, hread⟩ | hlist)
    · rw [expand_of_list hlist, hread]
      rfl
    · exact expand_of_not_list hlist

/-- The manifests of an image can be filled in unless it is a manifest list that cannot be read. -/
theorem exists_expand_eq_error_iff (image : Image) :
    (∃ fault, image.expand = .error fault) ↔ image.IsUnreadableList := by
  rw [IsUnreadableList]
  cases hlist : image.isManifestList with
  | true =>
    rw [expand_of_list hlist]
    cases ManifestList.codec.ofBytes? (Text.utf8 image.manifest) with
    | none => simp
    | some list => simp
  | false => simp [expand_of_not_list hlist]

namespace Filled

variable {image expanded : Image}

/-- There is one way to fill in the manifests of an image. -/
theorem unique (h : image.Filled expanded) {other : Image} (hother : image.Filled other) :
    expanded = other :=
  Except.ok.inj ((expand_eq_ok_iff.2 h).symm.trans (expand_eq_ok_iff.2 hother))

/-- Nothing but the references changes. -/
theorem rest_eq (h : image.Filled expanded) :
    expanded = { image with manifests := expanded.manifests } := by
  cases h with
  | list hlist hread => rfl
  | plain hlist => rfl

end Filled

end Image

namespace ControlPlane

/-- The payload of an index with one manifest. -/
def indexOfOne : String :=
  "\x7b\"schemaVersion\":2,\"mediaType\":\"application/vnd.oci.image.index.v1+json\"," ++
    "\"manifests\":[\x7b\"mediaType\":\"type\",\"digest\":\"digest\",\"size\":3\x7d]\x7d"

/-- An index with some references. -/
def indexWith (manifests : List ImageManifest) : Image :=
  { metadata := { name := "index" }, manifest := indexOfOne
    manifestMediaType := MediaType.ociIndex, manifests }

/-- The index comes to refer to its one manifest, whatever it referred to before. -/
theorem filled_indexWith (manifests : List ImageManifest) :
    (indexWith manifests).Filled (indexWith [⟨"digest", "type", 3, "", ""⟩]) := by
  have hentries : (ManifestList.codec.ofBytes? (Text.utf8 indexOfOne)).map
      (fun list => list.manifests.map ImageManifest.ofDescriptor) =
        some [⟨"digest", "type", 3, "", ""⟩] := by
    decide +kernel
  obtain ⟨list, hread, hreferences⟩ := Option.map_eq_some_iff.1 hentries
  rw [← hreferences]
  exact .list rfl hread

end ControlPlane

end RegistryBench
