/-!
# Characters that do not count

A URL may be broken over lines and indented: tabs and line ends are dropped wherever they stand,
and blanks and control characters at both ends.
-/

namespace RegistryBench.Url

/-- Characters that are dropped wherever they stand. -/
def isDropped (c : Char) : Bool :=
  c == '\t' || c == '\n' || c == '\r'

/-- The characters of a part of a URL that count. -/
def kept (text : List Char) : List Char :=
  text.filter fun c => !isDropped c

/-- Characters that are dropped at both ends. -/
def isMargin (c : Char) : Bool :=
  c.toNat ≤ 0x20

/-- A text without the characters at both ends that are dropped there. -/
def withoutMargins (text : List Char) : List Char :=
  ((text.dropWhile isMargin).reverse.dropWhile isMargin).reverse

end RegistryBench.Url
