import RegistryBench.Manifest.Payload

/-!
# How payloads are read

The media type decides which codec reads a payload: that of manifest lists, that of manifests, or
none. No media type is one of a list and of a manifest.
-/

namespace RegistryBench

namespace MediaType

theorem isManifest_iff {mediaType : String} :
    isManifest mediaType = true ↔ mediaType ∈ [ociManifest, dockerManifest] := by
  simp [isManifest]

theorem isIndex_iff {mediaType : String} :
    isIndex mediaType = true ↔ mediaType ∈ [ociIndex, dockerManifestList] := by
  simp [isIndex]

/-- The manifest of one image is no list of manifests. -/
theorem isIndex_eq_false_of_isManifest {mediaType : String} (h : isManifest mediaType = true) :
    isIndex mediaType = false := by
  rw [isManifest, Bool.or_eq_true, beq_iff_eq, beq_iff_eq] at h
  obtain rfl | rfl := h
  · decide
  · decide

end MediaType

namespace Payload

/-- Whether a payload is read as a manifest list is decided by its codec. -/
theorem parse_of_isIndex {mediaType : String} (h : MediaType.isIndex mediaType = true)
    (octets : Bytes) :
    parse mediaType octets =
      match ManifestList.codec.ofBytes? octets with
      | some list => .ok (.index list)
      | none => .error (.invalid mediaType) := by
  cases hread : ManifestList.codec.ofBytes? octets with
  | none => simp only [parse, if_pos h, hread]
  | some list => simp only [parse, if_pos h, hread]

/-- Whether a payload is read as the manifest of one image is decided by its codec. -/
theorem parse_of_isManifest {mediaType : String} (h : MediaType.isManifest mediaType = true)
    (octets : Bytes) :
    parse mediaType octets =
      match Manifest.codec.ofBytes? octets with
      | some manifest => .ok (.image manifest)
      | none => .error (.invalid mediaType) := by
  have hindex : ¬ MediaType.isIndex mediaType = true :=
    Bool.eq_false_iff.1 (MediaType.isIndex_eq_false_of_isManifest h)
  cases hread : Manifest.codec.ofBytes? octets with
  | none => simp only [parse, if_neg hindex, if_pos h, hread]
  | some manifest => simp only [parse, if_neg hindex, if_pos h, hread]

/-- A payload of another media type is not read at all. -/
theorem parse_of_other {mediaType : String} (hindex : ¬ MediaType.isIndex mediaType = true)
    (hmanifest : ¬ MediaType.isManifest mediaType = true) (octets : Bytes) :
    parse mediaType octets = .error (.unsupported mediaType) := by
  rw [parse, if_neg hindex, if_neg hmanifest]

end Payload

end RegistryBench
