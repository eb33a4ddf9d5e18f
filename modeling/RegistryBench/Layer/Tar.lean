import RegistryBench.Text.Cut
import RegistryBench.Text.Utf8

/-!
# Tar archives

An archive is a sequence of blocks of 512 octets: for each file a header block and the content,
filled up with zeros, and two zero blocks at the end. Headers are in the GNU format and hold the
path, the mode, the size and a checksum; all else in them is zero. Archives are written from files
and read back in sequence.
-/

namespace RegistryBench.Tar

/-- The octets of a block. -/
def blockSize : Nat := 512

/-- Some zero octets. -/
def zeros (n : Nat) : Bytes :=
  List.replicate n 0

/-! ### Paths -/

/-- Why a path cannot be archived. -/
inductive PathFault where
  /-- It is not relative. -/
  | absolute
  /-- It goes up a directory. -/
  | climbing
  /-- It has no component. -/
  | empty
  /-- It does not fit into the header. -/
  | long
  /-- It has a zero octet. -/
  | zeroOctet
deriving DecidableEq

/-- The octets that a path may have in a header. -/
def pathSize : Nat := 100

/-- The path as it is stored: without doubled slashes and `.` components, unless there is nothing
else, and with its final slash. -/
def normalPath (path : String) : Except PathFault String :=
  let pieces := Text.split '/' path
  let names := pieces.filter fun piece => piece ≠ "" ∧ piece ≠ "."
  let ending := if path.toList.getLast? = some '/' then "/" else ""
  if path.toList.head? = some '/' then .error .absolute
  else if ".." ∈ names then .error .climbing
  else if names ≠ [] then .ok ("/".intercalate names ++ ending)
  else if pieces.head? = some "." then .ok ("." ++ ending)
  else .error .empty

/-- The octets of a path as it is stored. -/
def storedPath (path : String) : Except PathFault Bytes := do
  let octets := Text.utf8 (← normalPath path)
  if 0 ∈ octets then throw .zeroOctet
  else if pathSize < octets.length then throw .long
  else return octets

/-! ### Writing -/

/-- The last octal digits of a number, as ASCII. -/
def octal : Nat → Nat → Bytes
  | 0, _ => []
  | width + 1, n => octal width (n / 8) ++ [0x30 + UInt8.ofNat (n % 8)]

/-- A number field: octal digits and a zero octet. -/
def numberField (width n : Nat) : Bytes :=
  octal (width - 1) n ++ [0]

/-- The mode of every file: its owner may write it, all may read it. -/
def mode : Nat := 420

/-- What marks a header of the GNU format. -/
def magic : Bytes := [0x75, 0x73, 0x74, 0x61, 0x72, 0x20, 0x20, 0]

/-- Octets with zeros after them, up to a length. -/
def padTo (length : Nat) (octets : Bytes) : Bytes :=
  octets ++ zeros (length - octets.length)

/-- A header block with some octets in its checksum field. -/
def headerWith (checksum path : Bytes) (size : Nat) : Bytes :=
  padTo blockSize <|
    padTo pathSize path ++ numberField 8 mode ++ zeros 16 ++ numberField 12 size ++
      numberField 12 0 ++ checksum ++ zeros 101 ++ magic

/-- The checksum field as it is while the checksum is computed. -/
def blankChecksum : Bytes := List.replicate 8 0x20

/-- The sum of some octets. -/
def octetSum (octets : Bytes) : Nat :=
  octets.foldr (fun octet sum => octet.toNat + sum) 0

/-- The header block of a file. -/
def header (path : Bytes) (size : Nat) : Bytes :=
  headerWith (numberField 8 (octetSum (headerWith blankChecksum path size))) path size

/-- How many octets fill up the last block of a content. -/
def fill (size : Nat) : Nat :=
  (blockSize - size % blockSize) % blockSize

/-- The blocks of a file. -/
def fileBlocks (path content : Bytes) : Bytes :=
  header path content.length ++ content ++ zeros (fill content.length)

/-- The archive of some files: paths and contents. It is written only when every path can be. -/
def write (files : List (String × Bytes)) : Except PathFault Bytes := do
  let files ← files.mapM fun (path, content) => return (← storedPath path, content)
  return files.flatMap (fun (path, content) => fileBlocks path content) ++ zeros (2 * blockSize)

/-! ### Reading -/

/-- A file in an archive. -/
structure File where
  /-- The path as it is stored. -/
  path : Bytes
  /-- The mode. -/
  mode : Nat
  /-- The content. -/
  content : Bytes
deriving DecidableEq

/-- The number that octal digits denote, up to the first other octet. -/
def octalValue (digits : Bytes) : Nat :=
  (digits.takeWhile fun d => 0x30 ≤ d ∧ d ≤ 0x37).foldl
    (fun n d => n * 8 + (d.toNat - 0x30)) 0

/-- Part of a block. -/
def slice (start length : Nat) (block : Bytes) : Bytes :=
  (block.drop start).take length

/-- Whether the checksum field of a header is the sum of its octets with that field blank. -/
def isHeader (block : Bytes) : Bool :=
  octalValue (slice 148 8 block) ==
    octetSum (block.take 148 ++ blankChecksum ++ block.drop 156)

/-- Read files one after the other until a zero block; at most so many. -/
def readFiles : Nat → Bytes → Option (List File)
  | 0, _ => none
  | count + 1, octets =>
    let block := octets.take blockSize
    if block = zeros blockSize then some []
    else if isHeader block then
      let size := octalValue (slice 124 12 block)
      let rest := octets.drop blockSize
      if rest.length < size then none
      else
        let file : File :=
          { path := (slice 0 pathSize block).takeWhile (· ≠ 0)
            mode := octalValue (slice 100 8 block)
            content := rest.take size }
        (readFiles count (rest.drop (size + fill size))).map (file :: ·)
    else none

/-- Read an archive, in which each file takes at least one block. -/
def read? (archive : Bytes) : Option (List File) :=
  readFiles (archive.length / blockSize + 1) archive

end RegistryBench.Tar
