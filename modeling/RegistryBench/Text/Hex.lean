import RegistryBench.Text.Utf8

/-!
# Hexadecimal

Octets as pairs of lower-case hexadecimal digits, and back.
-/

namespace RegistryBench.Text

/-- The two lower-case digits of an octet. -/
def hexPair (octet : UInt8) : List Char :=
  [Nat.digitChar (octet.toNat / 16), Nat.digitChar (octet.toNat % 16)]

/-- Octets as lower-case hexadecimal digits, two for each. -/
def hex (octets : Bytes) : String :=
  String.ofList (octets.flatMap hexPair)

/-- The value of a hexadecimal digit of either case. -/
def hexValue? (octet : UInt8) : Option Nat :=
  let n := octet.toNat
  if 0x30 ≤ n ∧ n ≤ 0x39 then some (n - 0x30)
  else if 0x61 ≤ n ∧ n ≤ 0x66 then some (n - 0x61 + 10)
  else if 0x41 ≤ n ∧ n ≤ 0x46 then some (n - 0x41 + 10)
  else none

/-- Whether a character is a lower-case hexadecimal digit. -/
def isLowerHex (c : Char) : Bool :=
  c.isDigit || ('a' ≤ c && c ≤ 'f')

end RegistryBench.Text
