import Std.Data.ExtTreeMap
import RegistryBench.Json.Reader
import RegistryBench.Json.Writer

/-!
# Codecs

A codec says how the values of a type are written as JSON and which JSON is read as one of them.
Records are put together field by field: a record is read from an object, whose unknown keys are
ignored and whose known keys may stand only once, or from a list of its fields in order, of which
those at the end may be missing if they have a value of their own. Reading counts how many
containers may still nest, of which a text may hold `Codec.depth`.
-/

namespace RegistryBench

/-- How the values of a type are written and read. -/
structure Codec (α : Type) where
  /-- Read a value in which at most so many containers nest. -/
  read : Nat → Json → Option α
  /-- Write a value. -/
  write : α → Json

namespace Codec

/-- How deep the containers of a text may nest where they are read. -/
def depth : Nat := 127

/-- Read a value from the octets of a text. -/
def ofBytes? {α : Type} (c : Codec α) (octets : Bytes) : Option α :=
  (Json.read? octets).bind (c.read depth)

/-- The compact text of a value. -/
def toBytes {α : Type} (c : Codec α) (value : α) : Bytes :=
  (c.write value).compact

/-- Texts. -/
def text : Codec String where
  read _
    | .string literal => literal
    | _ => none
  write := .text

/-- Truth values. -/
def bool : Codec Bool where
  read _
    | .bool b => some b
    | _ => none
  write := .bool

/-- Integers from `least` up to and without `bound`, written as integers. -/
def integer (least bound : Int) : Codec Int where
  read _
    | .number n => n.toInt?.bind fun i => if least ≤ i ∧ i < bound then some i else none
    | _ => none
  write := .integer

/-- Natural numbers below `bound`. -/
def natural (bound : Nat) : Codec Nat where
  read _
    | .number n => n.toInt?.bind fun i => if 0 ≤ i ∧ i < bound then some i.toNat else none
    | _ => none
  write := .natural

/-- Natural numbers of thirty-two bits. -/
def natural32 : Codec Nat := natural 4294967296

/-- Natural numbers of sixty-four bits. -/
def natural64 : Codec Nat := natural 18446744073709551616

/-- Integers of sixty-four bits. -/
def integer64 : Codec Int :=
  integer (-9223372036854775808) 9223372036854775808

/-- Octets, as natural numbers. -/
def octet : Codec UInt8 where
  read room json := ((natural 256).read room json).map UInt8.ofNat
  write o := .natural o.toNat

/-- Lists. -/
def list {α : Type} (c : Codec α) : Codec (List α) where
  read
    | room + 1, .list items => items.mapM (c.read room)
    | _, _ => none
  write values := .list (values.map c.write)

/-- Values that may be absent; `null` is none. -/
def optional {α : Type} (c : Codec α) : Codec (Option α) where
  read room
    | .null => some none
    | json => (c.read room json).map some
  write
    | none => .null
    | some value => c.write value

/-- A table read from the members of an object; of a repeated key the last member stays. -/
def readTable {α : Type} (c : Codec α) (room : Nat) (members : List (Literal × Json)) :
    Option (Std.ExtTreeMap String α) :=
  members.foldlM (fun table (key, value) => do some (table.insert (← key) (← c.read room value))) ∅

/-- Tables, as objects with their keys in ascending order. -/
def table {α : Type} (c : Codec α) : Codec (Std.ExtTreeMap String α) where
  read
    | room + 1, .object members => readTable c room members
    | _, _ => none
  write table := .record (table.toList.map fun (key, value) => (key, c.write value))

/-- A codec for a type whose values correspond to those of another one. -/
def map {α β : Type} (c : Codec α) (make : α → β) (parts : β → α) : Codec β where
  read room json := (c.read room json).map make
  write value := c.write (parts value)

end Codec

/-- A field of a record: its key, how its values are written and read, the value it has when the
key is missing (none for a field that must be there), and when it is left out in writing. -/
structure Field (α : Type) where
  /-- The key. -/
  key : String
  /-- How values are written and read. -/
  codec : Codec α
  /-- The value when the key is missing. -/
  absent : Option α
  /-- Whether writing leaves a value out. -/
  omits : α → Bool

namespace Field

variable {α : Type}

/-- A field that must be there. -/
def required (key : String) (c : Codec α) : Field α :=
  ⟨key, c, none, fun _ => false⟩

/-- A field that has a value when its key is missing, and is always written. -/
def defaulted (key : String) (c : Codec α) (value : α) : Field α :=
  ⟨key, c, some value, fun _ => false⟩

/-- A text that is empty when missing, and left out when empty. -/
def text (key : String) : Field String :=
  ⟨key, .text, some "", fun s => s == ""⟩

/-- A value that may be absent, and is left out then. -/
def optional (key : String) (c : Codec α) : Field (Option α) :=
  ⟨key, c.optional, some none, Option.isNone⟩

/-- A list that is empty when missing, and left out when empty. -/
def list (key : String) (c : Codec α) : Field (List α) :=
  ⟨key, c.list, some [], List.isEmpty⟩

/-- A table that is empty when missing, and left out when empty. -/
def table (key : String) (c : Codec α) : Field (Std.ExtTreeMap String α) :=
  ⟨key, c.table, some ∅, fun table => table.isEmpty⟩

/-- Read the value of a field from its place in a record, which may be empty. -/
def read (f : Field α) (room : Nat) : Option Json → Option α
  | none => f.absent
  | some json => f.codec.read room json

/-- What a value puts in the place of its field. -/
def write (f : Field α) (value : α) : Option Json :=
  if f.omits value then none else some (f.codec.write value)

end Field

/-- The fields of a record, with the values they hold together. -/
structure Fields (α : Type) where
  /-- The keys, in order. -/
  keys : List String
  /-- Read the values from the places of the fields. -/
  read : Nat → List (Option Json) → Option α
  /-- What the values put in the places of the fields. -/
  write : α → List (Option Json)

namespace Fields

variable {α β : Type}

/-- The last field of a record. -/
def last (f : Field α) : Fields α where
  keys := [f.key]
  read room
    | [place] => f.read room place
    | _ => none
  write value := [f.write value]

/-- A field before others. -/
def cons (f : Field α) (fs : Fields β) : Fields (α × β) where
  keys := f.key :: fs.keys
  read room
    | place :: places => do some (← f.read room place, ← fs.read room places)
    | [] => none
  write | (value, values) => f.write value :: fs.write values

/-- The members that stand for the filled places. -/
def present : List String → List (Option Json) → List (Literal × Json)
  | key :: keys, some value :: places => (some key, value) :: present keys places
  | _ :: keys, none :: places => present keys places
  | _, _ => []

/-- The place of a key among some members: empty when none has it, and `none` when several do. -/
def place? (members : List (Literal × Json)) (key : String) : Option (Option Json) :=
  match members.filter (fun (k, _) => k == some key) with
  | [] => some none
  | [(_, value)] => some (some value)
  | _ => none

/-- The places of some keys in a record. Every key of an object must be a text; a list fills the
places in order and may not be longer than they are. -/
def places? (keys : List String) : Json → Option (List (Option Json))
  | .object members =>
    if members.all (fun (k, _) => k.isSome) then keys.mapM (place? members) else none
  | .list items =>
    if items.length ≤ keys.length then
      some (items.map some ++ List.replicate (keys.length - items.length) none)
    else none
  | _ => none

/-- The codec of a record with these fields. -/
def codec (fs : Fields α) (make : α → β) (parts : β → α) : Codec β where
  read
    | room + 1, json => do
      let places ← places? fs.keys json
      (fs.read room places).map make
    | 0, _ => none
  write value := .object (present fs.keys (fs.write (parts value)))

/-- Whether an object has no keys but these. -/
def isClosed (keys : List String) : Json → Bool
  | .object members => members.all fun (k, _) => keys.any fun key => k == some key
  | _ => true

/-- The codec of a record that refuses unknown keys. -/
def closedCodec (fs : Fields α) (make : α → β) (parts : β → α) : Codec β where
  read room json :=
    if isClosed fs.keys json then (fs.codec make parts).read room json else none
  write := (fs.codec make parts).write

end Fields

end RegistryBench
