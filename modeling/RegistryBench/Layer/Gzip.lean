import RegistryBench.Text.Utf8

/-!
# Gzip

Octets packed as a gzip member: a header, stored blocks of at most 65535 octets, the CRC-32 and
the length. Unpacking reads such members back and refuses anything that does not check.
-/

namespace RegistryBench.Gzip

/-- The last octets of a number, least first. -/
def littleEndian : Nat → Nat → Bytes
  | 0, _ => []
  | width + 1, n => UInt8.ofNat (n % 256) :: littleEndian width (n / 256)

/-- The number that octets denote, least first. -/
def ofLittleEndian : Bytes → Nat
  | [] => 0
  | octet :: rest => octet.toNat + 256 * ofLittleEndian rest

/-! ### Checksums -/

/-- One step of the division by the CRC-32 polynomial, least bit first. -/
def shiftOut (register : UInt32) : UInt32 :=
  if register &&& 1 = 1 then (register >>> 1) ^^^ 0xEDB88320 else register >>> 1

/-- Take an octet into the register. -/
def takeIn (register : UInt32) (octet : UInt8) : UInt32 :=
  Nat.repeat shiftOut 8 (register ^^^ octet.toUInt32)

/-- The CRC-32 of some octets. -/
def crc (octets : Bytes) : UInt32 :=
  octets.foldl takeIn 0xFFFFFFFF ^^^ 0xFFFFFFFF

/-! ### Members -/

/-- The header: the magic number, the method, no flags, no time, no hints. -/
def header : Bytes := [0x1F, 0x8B, 8, 0, 0, 0, 0, 0, 0, 255]

/-- The most octets that a stored block has. -/
def blockLimit : Nat := 65535

/-- A stored block. -/
def block (isLast : Bool) (octets : Bytes) : Bytes :=
  (if isLast then 1 else 0) :: littleEndian 2 octets.length ++
    littleEndian 2 (blockLimit - octets.length) ++ octets

/-- The stored blocks of some octets. -/
def blocks (octets : Bytes) : Bytes :=
  if octets.length ≤ blockLimit then block true octets
  else block false (octets.take blockLimit) ++ blocks (octets.drop blockLimit)
termination_by octets.length
decreasing_by simp [blockLimit] at *; omega

/-- What follows the blocks: the CRC-32 and the length. -/
def trailer (octets : Bytes) : Bytes :=
  littleEndian 4 (crc octets).toNat ++ littleEndian 4 octets.length

/-- Pack octets. -/
def pack (octets : Bytes) : Bytes :=
  header ++ blocks octets ++ trailer octets

/-- Read stored blocks up to the last one: what they hold, and what follows them. -/
def readBlocks : Nat → Bytes → Option (Bytes × Bytes)
  | 0, _ => none
  | count + 1, kind :: a :: b :: c :: d :: rest =>
    let length := ofLittleEndian [a, b]
    if ofLittleEndian [c, d] + length ≠ blockLimit ∨ rest.length < length then none
    else if kind = 1 then some (rest.take length, rest.drop length)
    else if kind = 0 then
      (readBlocks count (rest.drop length)).map fun (more, after) =>
        (rest.take length ++ more, after)
    else none
  | _, _ => none

/-- Unpack octets. -/
def unpack? (packed : Bytes) : Option Bytes :=
  if packed.take header.length = header then
    match readBlocks packed.length (packed.drop header.length) with
    | some (octets, after) => if after = trailer octets then some octets else none
    | none => none
  else none

end RegistryBench.Gzip
