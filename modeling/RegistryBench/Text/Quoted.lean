import RegistryBench.Text.Ranges
import RegistryBench.Text.Invisible
import RegistryBench.Text.Combining

/-!
# Quoted text

How a text is shown inside a message: between quotation marks, with quotation marks and
backslashes escaped, the four short escapes, and every other character that would not be visible
on its own written by its number.
-/

namespace RegistryBench.Text

/-- Whether a character is shown as it is: printable ASCII, or a character that is neither
invisible nor combining. -/
def isVisible (c : Char) : Bool :=
  let code := c.toNat
  if code < 0x7F then 0x20 ≤ code
  else !inRanges invisibleRanges code && !inRanges combiningRanges code

/-- The number of a character in lower-case hexadecimal, between braces. -/
def numbered (c : Char) : List Char :=
  ['\\', 'u', '\x7b'] ++ Nat.toDigits 16 c.toNat ++ ['\x7d']

/-- How one character is shown between quotation marks. -/
def shown (c : Char) : List Char :=
  if c = '\\' then ['\\', '\\']
  else if c = '\"' then ['\\', '\"']
  else if c = '\n' then ['\\', 'n']
  else if c = '\r' then ['\\', 'r']
  else if c = '\t' then ['\\', 't']
  else if c.toNat = 0 then ['\\', '0']
  else if isVisible c then [c]
  else numbered c

/-- A text between quotation marks. -/
def quote (text : String) : String :=
  String.ofList ('\"' :: text.toList.flatMap shown ++ ['\"'])

end RegistryBench.Text
