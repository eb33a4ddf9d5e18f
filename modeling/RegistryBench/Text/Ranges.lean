/-!
# Ranges of code points

Properties of characters as lists of ranges of code points, each with its first and its last.
-/

namespace RegistryBench.Text

/-- Whether one of `ranges` holds the code point. -/
def inRanges (ranges : List (Nat × Nat)) (code : Nat) : Bool :=
  ranges.any fun (first, last) => first ≤ code && code ≤ last

end RegistryBench.Text
