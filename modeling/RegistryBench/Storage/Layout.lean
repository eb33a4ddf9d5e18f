import RegistryBench.Digest

/-!
# The layout of registry storage

Where a registry keeps the link of a layer, the link of a manifest revision, and the content of a
blob.
-/

namespace RegistryBench.Storage.Layout

/-- Where all data of a registry lies. -/
def root : String := "/docker/registry/v2"

/-- The link that says that a repository holds a layer. -/
def layerLink (repository : String) (digest : Digest) : String :=
  root ++ "/repositories/" ++ repository ++ "/_layers/" ++ digest.algorithm ++ "/" ++ digest.hex ++
    "/link"

/-- The link that says that a repository holds a manifest revision. -/
def revisionLink (repository : String) (digest : Digest) : String :=
  root ++ "/repositories/" ++ repository ++ "/_manifests/revisions/" ++ digest.algorithm ++ "/" ++
    digest.hex ++ "/link"

/-- The directory that a hash is sorted into: its first two digits, or all of a shorter hash. -/
def shard (hex : String) : String :=
  String.ofList (hex.toList.take 2)

/-- The content of a blob. -/
def blobData (digest : Digest) : String :=
  root ++ "/blobs/" ++ digest.algorithm ++ "/" ++ shard digest.hex ++ "/" ++ digest.hex ++ "/data"

end RegistryBench.Storage.Layout
