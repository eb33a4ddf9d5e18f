import RegistryBench.Text.Folding.Table
import RegistryBench.Text.Ranges
import RegistryBench.Text.Cut

/-!
# Folding

The folded form of a text, in which letters are small, compatibility characters are replaced by
what they stand for, and characters are dropped that are not shown. Names that differ only in
such things have one folded form.
-/

namespace RegistryBench.Text

/-- What a character folds to that lies in a range at an even distance from its folded forms. -/
def shifted? (code : Nat) : Option Char :=
  (shiftedRanges.find? fun (first, last, step, _) =>
    first ≤ code && code ≤ last && (code - first) % step == 0).map
    fun (first, _, _, target) => Char.ofNat (target + (code - first))

/-- What a character folds to that has a text of its own. -/
def folded? (code : Nat) : Option (List Char) :=
  foldedRuns.findSome? fun (first, targets) =>
    if first ≤ code then (splitList '|' targets.toList)[code - first]? else none

/-- What a character folds to. -/
def foldChar (c : Char) : List Char :=
  let code := c.toNat
  if code < 0x80 then [c.toLower]
  else if inRanges ignoredRanges code then []
  else
    match shifted? code with
    | some target => [target]
    | none => (folded? code).getD [c]

/-- The folded form of a text. -/
def fold (text : List Char) : List Char :=
  text.flatMap foldChar

end RegistryBench.Text
