import RegistryBench.Digest
import RegistryBench.Json.Codec

/-!
# Digests in documents

A digest is written as its text; a text that is no digest is refused.
-/

namespace RegistryBench

/-- How digests are written and read. -/
def Digest.codec : Codec Digest where
  read room json := (Codec.text.read room json).bind fun raw => (parse raw).toOption
  write digest := .text digest.toText

end RegistryBench
