/-!
# Media types

The media types of manifests, indexes, configs and layers, in the two families that registries
serve, and the two questions asked about them.
-/

namespace RegistryBench.MediaType

/-- An OCI image index. -/
def ociIndex : String := "application/vnd.oci.image.index.v1+json"

/-- An OCI image manifest. -/
def ociManifest : String := "application/vnd.oci.image.manifest.v1+json"

/-- An OCI image config. -/
def ociConfig : String := "application/vnd.oci.image.config.v1+json"

/-- An OCI layer. -/
def ociLayer : String := "application/vnd.oci.image.layer.v1.tar+gzip"

/-- A docker manifest list. -/
def dockerManifestList : String := "application/vnd.docker.distribution.manifest.list.v2+json"

/-- A docker schema 2 manifest. -/
def dockerManifest : String := "application/vnd.docker.distribution.manifest.v2+json"

/-- A docker image config. -/
def dockerConfig : String := "application/vnd.docker.container.image.v1+json"

/-- A docker layer. -/
def dockerLayer : String := "application/vnd.docker.image.rootfs.diff.tar.gzip"

/-- Whether a payload of this type lists other manifests. -/
def isIndex (mediaType : String) : Bool :=
  mediaType == ociIndex || mediaType == dockerManifestList

/-- Whether a payload of this type is the manifest of one image. -/
def isManifest (mediaType : String) : Bool :=
  mediaType == ociManifest || mediaType == dockerManifest

end RegistryBench.MediaType
