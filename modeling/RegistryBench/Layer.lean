import RegistryBench.Digest
import RegistryBench.Layer.Gzip
import RegistryBench.Layer.Tar
import RegistryBench.Manifest.Basic
import RegistryBench.Manifest.MediaType

/-!
# Layers

A layer blob is a packed tar archive with its digest. The bench makes layers that no other layer
equals from noise: one file with a random name and random content.
-/

namespace RegistryBench

/-- A layer blob. -/
structure Layer where
  /-- The packed archive. -/
  data : Bytes
  /-- The digest of the data. -/
  digest : Digest
  /-- The media type. -/
  mediaType : String
deriving DecidableEq

namespace Layer

/-- The layer with some data, named by its SHA-256 digest. -/
def ofData (data : Bytes) (mediaType : String) : Layer :=
  ⟨data, .ofContent data, mediaType⟩

/-- The descriptor of a layer. -/
def descriptor (layer : Layer) : Descriptor :=
  { mediaType := layer.mediaType, digest := layer.digest.toText, size := layer.data.length }

/-- Why a layer is not made. -/
inductive Fault where
  /-- Its archive cannot be written, which is an error of input and output. -/
  | io (cause : Tar.PathFault)
deriving DecidableEq

/-- The packed archive of some files. -/
def archive (files : List (String × Bytes)) : Except Fault Bytes :=
  ((Tar.write files).mapError .io).map Gzip.pack

/-- The layer with one file, whose name shows some octets in hexadecimal. -/
def ofNoise (name content : Bytes) : Except Fault Layer :=
  (archive [(Text.hex name, content)]).map fun data => ofData data MediaType.dockerLayer

/-- The files in the archive of a layer. -/
def files? (layer : Layer) : Option (List Tar.File) :=
  (Gzip.unpack? layer.data).bind Tar.read?

end Layer

end RegistryBench
