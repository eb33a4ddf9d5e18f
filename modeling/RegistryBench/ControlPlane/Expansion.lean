import RegistryBench.Error
import RegistryBench.Resource.Image

/-!
# Expansion of manifest lists

The image of a manifest list carries references to the manifests of the list. They are read from
its payload.
-/

namespace RegistryBench

/-- The reference to a manifest that an entry of a list describes. -/
def ImageManifest.ofDescriptor (d : Descriptor) : ImageManifest :=
  { digest := d.digest, mediaType := d.mediaType, manifestSize := d.size }

namespace Image

/-- Fill in the references to the manifests of a manifest list, in place of those that are there.
Other images stay as they are. -/
def expand (image : Image) : Except RequestFault Image :=
  if image.isManifestList then
    match Payload.parse image.manifestMediaType (Text.utf8 image.manifest) with
    | .error fault => .error (.payload image.name fault)
    | .ok (.image _) => .error (.notAnIndex image.name image.manifestMediaType)
    | .ok (.index list) =>
      .ok { image with manifests := list.manifests.map ImageManifest.ofDescriptor }
  else .ok image

/-- Filling in the manifests leaves the name as it is. -/
theorem name_of_expand {image expanded : Image} (h : image.expand = .ok expanded) :
    expanded.name = image.name := by
  rw [expand] at h
  split at h
  · split at h
    · contradiction
    · contradiction
    · rw [← Except.ok.inj h]
      rfl
  · rw [← Except.ok.inj h]

end Image

end RegistryBench
