import RegistryBench.ControlPlane.Resolution
import RegistryBench.Proofs.Digest.Grammar

/-!
# Ids that are digests

Among images that are named by SHA-256 digests, a digest in full names itself only: all such names
have the same length, so none is a proper beginning of another, and the hash part alone is too
short to begin with one (`isNamedBy_iff_of_isSha256`). So the digest of an image that a stream
names resolves to that image, whatever else the stream names (`findImage?_of_isSha256`).
-/

namespace RegistryBench

namespace Digest

/-- The text is the written form of a SHA-256 digest. -/
def IsSha256 (text : String) : Prop :=
  ∃ digest, parse text = .ok digest ∧ digest.algorithm = sha256Name

theorem isSha256_ofContent (content : Bytes) : IsSha256 (ofContent content).toText :=
  ⟨ofContent content, parse_toText_ofContent content, rfl⟩

/-- A SHA-256 digest has seventy-one characters, the hash part sixty-four of them. -/
theorem IsSha256.length {text : String} (h : IsSha256 text) :
    text.toList.length = 71 ∧ (ImageStream.hashPart text).toList.length = 64 := by
  obtain ⟨digest, hparse, halgorithm⟩ := h
  obtain ⟨rfl, hdigest⟩ := parse_eq_ok_iff.1 hparse
  have hhex : digest.hex.toList.length = 64 := hdigest.length_hex halgorithm
  refine ⟨?_, ?_⟩
  · rw [toText, halgorithm, String.toList_append, String.toList_append, List.length_append,
      List.length_append, hhex]
    rfl
  · rw [ImageStream.hashPart, hdigest.cut?_toText]
    exact hhex

theorem IsSha256.ne_empty {text : String} (h : IsSha256 text) : text ≠ "" := by
  rintro rfl
  exact absurd h.length.1 (by decide)

end Digest

namespace ImageStream

/-- A digest in full is too long to be an abbreviation of another one. -/
theorem isNamedBy_iff_of_isSha256 {image id : String} (himage : Digest.IsSha256 image)
    (hid : Digest.IsSha256 id) : isNamedBy image id = true ↔ image = id := by
  obtain ⟨himage, hhash⟩ := himage.length
  obtain ⟨hid, -⟩ := hid.length
  rw [isNamedBy, Bool.or_eq_true, Bool.and_eq_true, Bool.or_eq_true, beq_iff_eq]
  refine ⟨?_, Or.inl⟩
  -- a name is met in full, at its beginning, or at the beginning of its hash
  rintro (heq | ⟨-, hstart | hstart⟩)
  · exact heq
  · -- both are of one length, so nothing follows
    obtain ⟨rest, rfl⟩ := Text.startsWith_iff.1 hstart
    rw [String.toList_append, List.length_append, hid] at himage
    have hrest : rest.toList = [] := List.length_eq_zero_iff.1 (by omega)
    rw [String.toList_eq_nil_iff.1 hrest, String.append_empty]
  · -- a hash has fewer characters than a digest
    obtain ⟨rest, hrest⟩ := Text.startsWith_iff.1 hstart
    rw [← hrest, String.toList_append, List.length_append] at hhash
    omega

/-- The digest of an image that a stream names resolves to that image. -/
theorem findImage?_of_isSha256 {stream : ImageStream} {id : String}
    (hdigests : ∀ image ∈ stream.referencedImages, Digest.IsSha256 image)
    (hid : id ∈ stream.referencedImages) : stream.findImage? id = some id := by
  cases hfound : stream.findImage? id with
  | none =>
    rw [findImage?, List.find?_eq_none] at hfound
    exact absurd ((isNamedBy_iff_of_isSha256 (hdigests id hid) (hdigests id hid)).2 rfl)
      (hfound id hid)
  | some image =>
    have himage : image ∈ stream.referencedImages := mem_referencedImages_of_findImage? hfound
    have hnamed : isNamedBy image id = true :=
      List.find?_some (p := fun image => isNamedBy image id) hfound
    rw [(isNamedBy_iff_of_isSha256 (hdigests image himage) (hdigests id hid)).1 hnamed]

end ImageStream

end RegistryBench
