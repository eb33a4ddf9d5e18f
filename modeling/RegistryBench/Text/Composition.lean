import RegistryBench.Text.Composition.Table

/-!
# Composition

A letter with marks can be written as one character or as several, and the marks on it in more
than one order. `compose` gives the one form in which every character is composed as far as it
can be and marks of different classes are in the order of their classes.
-/

namespace RegistryBench.Text

/-- The class of a mark, or 0 for a character that is none. -/
def markClass (c : Char) : Nat :=
  ((markClasses.find? fun (first, last, _) => first ≤ c.toNat && c.toNat ≤ last).map
    fun (_, _, markClass) => markClass).getD 0

/-! ### Characters and their parts -/

/-- The triples of a character, a mark and what they compose to, from a mark's row. -/
def triples (mark : Char) : List Char → List (Char × Char × Char)
  | base :: composed :: rest => (base, mark, composed) :: triples mark rest
  | _ => []

/-- Every character with a mark that it composes with and the composed character. -/
def composedTriples : List (Char × Char × Char) :=
  compositions.flatMap fun (mark, row) => triples (Char.ofNat mark) row.toList

/-- The first of the syllables of Hangul; they are ordered by their leading consonants, vowels and
trailing consonants. -/
def firstSyllable : Nat := 0xAC00

/-- The first of the 19 leading consonants. -/
def firstLead : Nat := 0x1100

/-- The first of the 21 vowels. -/
def firstVowel : Nat := 0x1161

/-- The code point before the first of the 27 trailing consonants. -/
def noTail : Nat := 0x11A7

/-- The number of syllables with the same leading consonant and vowel. -/
def tailCount : Nat := 28

/-- The number of syllables with the same leading consonant. -/
def vowelTailCount : Nat := 21 * tailCount

/-- The syllable that two parts of one compose to. -/
def syllable? (left right : Char) : Option Char :=
  let l := left.toNat
  let r := right.toNat
  if firstLead ≤ l ∧ l < firstLead + 19 ∧ firstVowel ≤ r ∧ r < firstVowel + 21 then
    some (Char.ofNat
      (firstSyllable + (l - firstLead) * vowelTailCount + (r - firstVowel) * tailCount))
  else if firstSyllable ≤ l ∧ l < firstSyllable + 19 * vowelTailCount ∧
      (l - firstSyllable) % tailCount = 0 ∧ noTail < r ∧ r < noTail + tailCount then
    some (Char.ofNat (l + (r - noTail)))
  else none

/-- The two parts of a syllable. -/
def syllableParts? (c : Char) : Option (Char × Char) :=
  if firstSyllable ≤ c.toNat ∧ c.toNat < firstSyllable + 19 * vowelTailCount then
    let place := c.toNat - firstSyllable
    if place % tailCount = 0 then
      some (Char.ofNat (firstLead + place / vowelTailCount),
        Char.ofNat (firstVowel + place % vowelTailCount / tailCount))
    else some (Char.ofNat (c.toNat - place % tailCount), Char.ofNat (noTail + place % tailCount))
  else none

/-- The character that two characters compose to. -/
def joined? (left right : Char) : Option Char :=
  (syllable? left right).or
    ((composedTriples.find? fun (base, mark, _) => base == left && mark == right).map
      fun (_, _, composed) => composed)

/-- The two characters that a character is composed of. -/
def parts? (c : Char) : Option (Char × Char) :=
  (syllableParts? c).or
    ((composedTriples.find? fun (_, _, composed) => composed == c).map
      fun (base, mark, _) => (base, mark))

/-! ### Decomposition -/

/-- The greatest number of marks in one character. -/
def greatestMarks : Nat := 3

/-- A character without its marks, and the marks after it. Only the character itself, not its
marks, can be composed again; `depth` bounds how often. -/
def decomposeChar (depth : Nat) (c : Char) : List Char :=
  match depth, parts? c with
  | depth + 1, some (base, mark) => decomposeChar depth base ++ [mark]
  | _, _ => [c]

/-- Place a character after others, which are given latest first: a mark goes before the marks of
greater classes. -/
def place (before : List Char) (c : Char) : List Char :=
  match before with
  | [] => [c]
  | latest :: earlier =>
    if 0 < markClass c ∧ markClass c < markClass latest then latest :: place earlier c
    else c :: latest :: earlier

/-- A text with every character decomposed and marks in the order of their classes. -/
def decompose (text : List Char) : List Char :=
  ((text.flatMap (decomposeChar greatestMarks)).foldl place []).reverse

/-! ### Composition -/

/-- Compose a character with what follows it. The marks between that did not compose with it are
given latest first: behind one of them a mark of the same class does not compose. -/
def composeFrom (base : Char) (marks : List Char) : List Char → List Char
  | [] => base :: marks.reverse
  | c :: rest =>
    let isReached :=
      match marks with
      | [] => true
      | latest :: _ => markClass latest < markClass c
    match if isReached then joined? base c else none with
    | some composed => composeFrom composed marks rest
    | none =>
      if markClass c = 0 then base :: marks.reverse ++ composeFrom c [] rest
      else composeFrom base (c :: marks) rest

/-- The composed form of a text. -/
def compose (text : List Char) : List Char :=
  match decompose text with
  | [] => []
  | base :: rest => composeFrom base [] rest

end RegistryBench.Text
