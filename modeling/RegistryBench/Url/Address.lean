import RegistryBench.Text.Cut
import RegistryBench.Text.Hex

/-!
# Addresses

The addresses of hosts: four octets, written in decimal with dots, or eight pieces of sixteen
bits, written in hexadecimal with colons. Both can be read from several texts and are written in
one.
-/

namespace RegistryBench.Url

/-- The number that digits in a base denote, or `none` when one of them is no digit of the base. -/
def numeral? (base : Nat) (digits : List Char) : Option Nat :=
  digits.foldlM (fun n c => do
    let digit ← Text.hexValue? c.toUInt8
    if c.toNat < 0x80 ∧ digit < base then some (n * base + digit) else none) 0

/-! ### Addresses of four octets -/

/-- An address of four octets. -/
structure Ipv4 where
  /-- The octets as one number. -/
  bits : UInt32
deriving DecidableEq

namespace Ipv4

/-- The octets of an address. -/
def octets (address : Ipv4) : List Nat :=
  [24, 16, 8, 0].map fun shift => (address.bits.toNat >>> shift) % 256

/-- The text of an address. -/
def toText (address : Ipv4) : String :=
  ".".intercalate (address.octets.map Nat.repr)

/-- The number that a part of an address denotes: in hexadecimal after `0x`, in octal after another
`0`, and in decimal otherwise. -/
def part? : List Char → Option Nat
  | [] => none
  | '0' :: 'x' :: digits | '0' :: 'X' :: digits => numeral? 16 digits
  | '0' :: digit :: digits => numeral? 8 (digit :: digits)
  | digits => numeral? 10 digits

/-- The parts of a host between its dots, without an empty part at the end. -/
def parts (host : List Char) : List (List Char) :=
  let parts := Text.splitList '.' host
  if parts.getLast? = some [] then parts.dropLast else parts

/-- Whether a host has to be an address: its last part is a number, or has digits only. -/
def isNumeric (host : List Char) : Bool :=
  match (parts host).getLast? with
  | some last => (last ≠ [] && last.all Char.isDigit) || (part? last).isSome
  | none => false

/-- The address that numbers denote: all but the last are octets, and the last holds the octets
that remain. -/
def ofNumbers? (numbers : List Nat) : Option Ipv4 := do
  let last ← numbers.getLast?
  let octets := numbers.dropLast
  let width := 8 * (4 - octets.length)
  guard (octets.length < 4 ∧ octets.all (· < 256) ∧ last >>> width = 0)
  let high := octets.foldl (fun n octet => n * 256 + octet) 0
  some ⟨UInt32.ofNat ((high <<< width) + last)⟩

/-- Read an address. -/
def parse? (host : List Char) : Option Ipv4 := do
  ofNumbers? (← (parts host).mapM part?)

/-- A decimal octet: no zero leads another digit. -/
def decimalOctet? (digits : List Char) : Option Nat := do
  guard (digits ≠ [] ∧ (digits.length = 1 ∨ digits.head? ≠ some '0'))
  let n ← numeral? 10 digits
  guard (n < 256)
  some n

/-- The octets of an address in plain decimal. -/
def decimal? (text : List Char) : Option (List Nat) := do
  let octets ← (Text.splitList '.' text).mapM decimalOctet?
  guard (octets.length = 4)
  some octets

end Ipv4

/-! ### Addresses of eight pieces -/

/-- An address of eight pieces. -/
structure Ipv6 where
  /-- The pieces. -/
  pieces : Vector UInt16 8
deriving DecidableEq

namespace Ipv6

/-- A piece: one to four hexadecimal digits. -/
def piece? (digits : List Char) : Option UInt16 := do
  guard (digits ≠ [] ∧ digits.length ≤ 4)
  some (UInt16.ofNat (← numeral? 16 digits))

/-- Pieces with colons between them. The last two may be four octets. -/
def pieces? : List (List Char) → Option (List UInt16)
  | [] => some []
  | [last] =>
    if '.' ∈ last then do
      match ← Ipv4.decimal? last with
      | [a, b, c, d] => some [UInt16.ofNat (a * 256 + b), UInt16.ofNat (c * 256 + d)]
      | _ => none
    else (piece? last).map fun piece => [piece]
  | digits :: rest => do
    let piece ← piece? digits
    some (piece :: (← pieces? rest))

/-- Pieces of a text, or none of an empty one. -/
def piecesOf? (text : List Char) : Option (List UInt16) :=
  if text = [] then some [] else pieces? (Text.splitList ':' text)

/-- What stands before and after the first two colons next to each other. -/
def cutGap? : List Char → Option (List Char × List Char)
  | ':' :: ':' :: rest => some ([], rest)
  | c :: rest => (cutGap? rest).map fun (before, after) => (c :: before, after)
  | [] => none

/-- The address with those pieces, if there are eight. -/
def ofPieces? (pieces : List UInt16) : Option Ipv6 :=
  if h : pieces.length = 8 then some ⟨⟨pieces.toArray, by simp [h]⟩⟩ else none

/-- Read an address. Two colons next to each other stand for one or more pieces that are zero. -/
def parse? (text : List Char) : Option Ipv6 := do
  match cutGap? text with
  | none => ofPieces? (← piecesOf? text)
  | some (before, after) =>
    guard ('.' ∉ before)
    let before ← piecesOf? before
    let after ← piecesOf? after
    guard (before.length + after.length < 8)
    ofPieces? (before ++ List.replicate (8 - before.length - after.length) 0 ++ after)

/-- The number of pieces at the start that are zero. -/
def zeros (pieces : List UInt16) : Nat :=
  (pieces.takeWhile (· == 0)).length

/-- The place and the length of the first of the longest runs of zeros. -/
def longestGap (pieces : List UInt16) : Nat × Nat :=
  (List.range pieces.length).foldl (fun (start, length) i =>
    let here := zeros (pieces.drop i)
    if length < here then (i, here) else (start, length)) (0, 0)

/-- The text of pieces. -/
def join (pieces : List UInt16) : String :=
  ":".intercalate (pieces.map fun piece => String.ofList (Nat.toDigits 16 piece.toNat))

/-- The text of an address: the first of the longest runs of two or more zeros is left out. -/
def toText (address : Ipv6) : String :=
  let pieces := address.pieces.toList
  let (start, length) := longestGap pieces
  if 2 ≤ length then
    join (pieces.take start) ++ "::" ++ join (pieces.drop (start + length))
  else join pieces

end Ipv6

end RegistryBench.Url
