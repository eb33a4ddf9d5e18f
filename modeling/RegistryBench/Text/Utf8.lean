/-!
# Octets and UTF-8

Payloads, headers and stored files are octets; names and messages are text. This module goes
from one to the other: exactly, where text that is not well formed is refused, and leniently,
where each maximal ill-formed part is shown as one replacement character.
-/

namespace RegistryBench

/-- A payload: any sequence of octets. -/
abbrev Bytes := List UInt8

namespace Text

/-- The UTF-8 octets of a text. -/
def utf8 (text : String) : Bytes :=
  text.toByteArray.data.toList

/-- The text whose UTF-8 octets are given, or `none` when they are not well formed. -/
def ofUtf8? (octets : Bytes) : Option String :=
  String.fromUTF8? ⟨⟨octets⟩⟩

/-- Encoding a text and decoding it again gives the text back. -/
@[simp]
theorem ofUtf8?_utf8 (text : String) : ofUtf8? (utf8 text) = some text := by
  have h : (⟨⟨utf8 text⟩⟩ : ByteArray) = text.toByteArray := rfl
  simp [ofUtf8?, h, String.fromUTF8?, String.fromUTF8, text.isValidUTF8]

/-- Octets that decode are the encoding of what they decode to. -/
theorem eq_utf8_of_ofUtf8? {octets : Bytes} {text : String} (h : ofUtf8? octets = some text) :
    octets = utf8 text := by
  unfold ofUtf8? String.fromUTF8? at h
  split at h
  · cases h; rfl
  · cases h

/-- What stands for an ill-formed part. -/
def replacement : Char := '\uFFFD'

/-- A character whose leading octet has been read: the bits so far, and the bounds of each octet
that must still follow. -/
structure Partial where
  /-- The bits read so far. -/
  code : Nat
  /-- Least and greatest value of each octet still to come. -/
  pending : List (UInt8 × UInt8)

/-- The bounds of an ordinary continuation octet. -/
def continuation : UInt8 × UInt8 := (0x80, 0xBF)

/-- What reading an octet at the start of a character gives: the characters it completes, and the
character it begins. Octets that begin nothing are ill formed by themselves. -/
def begin? (octet : UInt8) : List Char × Option Partial :=
  let n := octet.toNat
  if octet < 0x80 then ([Char.ofNat n], none)
  else if octet < 0xC2 then ([replacement], none)
  else if octet < 0xE0 then ([], some ⟨n - 0xC0, [continuation]⟩)
  else if octet = 0xE0 then ([], some ⟨0, [(0xA0, 0xBF), continuation]⟩)
  else if octet = 0xED then ([], some ⟨0xD, [(0x80, 0x9F), continuation]⟩)
  else if octet < 0xF0 then ([], some ⟨n - 0xE0, [continuation, continuation]⟩)
  else if octet = 0xF0 then ([], some ⟨0, [(0x90, 0xBF), continuation, continuation]⟩)
  else if octet < 0xF4 then
    ([], some ⟨n - 0xF0, [continuation, continuation, continuation]⟩)
  else if octet = 0xF4 then ([], some ⟨4, [(0x80, 0x8F), continuation, continuation]⟩)
  else ([replacement], none)

/-- Decode the octets that follow an unfinished character. An octet that cannot continue it ends
the ill-formed part and is read afresh. -/
def lossyFrom : Option Partial → Bytes → List Char
  | none, [] => []
  | some _, [] => [replacement]
  | none, octet :: rest =>
    let (done, next) := begin? octet
    done ++ lossyFrom next rest
  | some ⟨code, []⟩, octet :: rest =>
    let (done, next) := begin? octet
    Char.ofNat code :: done ++ lossyFrom next rest
  | some ⟨code, (least, greatest) :: pending⟩, octet :: rest =>
    if least ≤ octet ∧ octet ≤ greatest then
      let code := code * 64 + (octet.toNat - 0x80)
      match pending with
      | [] => Char.ofNat code :: lossyFrom none rest
      | _ :: _ => lossyFrom (some ⟨code, pending⟩) rest
    else
      let (done, next) := begin? octet
      replacement :: done ++ lossyFrom next rest

/-- Decode any octets, with one replacement character for each maximal ill-formed part. -/
def lossy (octets : Bytes) : String :=
  String.ofList (lossyFrom none octets)

end Text

end RegistryBench
