import RegistryBench.Resource.ImageStream
import RegistryBench.Text.Cut
import RegistryBench.Text.Utf8

/-!
# Resolution of image ids

A client names an image of a stream by its full name or by the beginning of its name or of its
hash, which must not be too short. The first image that the tag events name decides.
-/

namespace RegistryBench.ImageStream

/-- How many octets the hash part of an abbreviated id has at least. -/
def shortestId : Nat := 6

/-- What follows the first colon of a name, or all of a name without a colon. -/
def hashPart (name : String) : String :=
  ((Text.cut? ':' name).map (·.2)).getD name

/-- Whether an id may be abbreviated. -/
def mayAbbreviate (id : String) : Bool :=
  shortestId ≤ (Text.utf8 (hashPart id)).length

/-- Whether an id names an image, in full or abbreviated. -/
def isNamedBy (image id : String) : Bool :=
  image == id ||
    (mayAbbreviate id && (Text.startsWith image id || Text.startsWith (hashPart image) id))

/-- The first image of a stream that an id names. -/
def findImage? (stream : ImageStream) (id : String) : Option String :=
  stream.referencedImages.find? fun image => isNamedBy image id

/-- An id names an image that a tag event names. -/
theorem mem_referencedImages_of_findImage? {stream : ImageStream} {id image : String}
    (h : stream.findImage? id = some image) : image ∈ stream.referencedImages :=
  List.mem_of_find?_eq_some h

end RegistryBench.ImageStream
