import RegistryBench.Text.Composition
import RegistryBench.Text.Folding
import RegistryBench.Text.Punycode
import RegistryBench.Url.Address
import RegistryBench.Url.Escape
import RegistryBench.Url.Scheme

/-!
# Hosts

The host of a URL is an address or a name. The names of hosts of the network have one form, in
ASCII: escapes are replaced by what they stand for, the name is folded and composed, and a label
with other characters than ASCII is written in Punycode. A name whose last label is a number is
an address.
-/

namespace RegistryBench.Url

/-- The host of a URL. -/
inductive Host where
  /-- A name. -/
  | name (text : String)
  /-- An address of four octets. -/
  | ipv4 (address : Ipv4)
  /-- An address of eight pieces. -/
  | ipv6 (address : Ipv6)
deriving DecidableEq

namespace Host

/-- No host. -/
def empty : Host := .name ""

/-- The text of a host. -/
def toText : Host → String
  | .name text => text
  | .ipv4 address => address.toText
  | .ipv6 address => "[" ++ address.toText ++ "]"

/-- The characters that no host may have. -/
def forbidden : List Char :=
  ['\x00', '\t', '\n', '\r', ' ', '#', '/', ':', '<', '>', '?', '@', '[', '\\', ']', '^', '|']

/-- Whether a character may stand in the name of a host of the network. -/
def isAllowed (c : Char) : Bool :=
  0x20 < c.toNat && c.toNat ≠ 0x7F && c != '%' && !forbidden.contains c

/-- What marks a label in Punycode. -/
def punycodeMark : List Char := ['x', 'n', '-', '-']

/-- A label of a name in ASCII. -/
def asciiLabel (label : List Char) : List Char :=
  if label.all Text.Punycode.isAscii then label
  else punycodeMark ++ Text.Punycode.encode label

/-- The labels of a name with dots between them. -/
def joinLabels (labels : List (List Char)) : List Char :=
  ['.'].intercalate labels

/-- The name of a host of the network in its one form. -/
def asciiName (text : String) : List Char :=
  joinLabels ((Text.splitList '.' (Text.compose (Text.fold text.toList))).map asciiLabel)

/-- The host of the network that a text names. -/
def network? (text : List Char) : Option Host := do
  let name := asciiName (← Text.ofUtf8? (unescape (Text.utf8 (String.ofList text))))
  guard (name ≠ [] ∧ name.all isAllowed)
  if Ipv4.isNumeric name then (Ipv4.parse? name).map .ipv4
  else some (.name (String.ofList name))

/-- The host in a text, for URLs of a kind. -/
def parse? (kind : Kind) (text : List Char) : Option Host :=
  match text with
  | '[' :: inside => do
    guard (inside.getLast? = some ']')
    (Ipv6.parse? inside.dropLast).map .ipv6
  | _ =>
    if kind.isSpecial then network? text
    else if text.any forbidden.contains then none
    else some (.name (escape [] text))

end Host

end RegistryBench.Url
