import RegistryBench.Json.Double

/-!
# Free-form documents

Some fields hold any JSON value and keep it as data. Reading one fixes what its text left open:
members are sorted by key, of a repeated key the last stays, and numbers are 64-bit integers or
have double precision. Every literal in it must be a text, and it may nest only so far.
-/

namespace RegistryBench

/-- Any JSON value, kept as data. -/
inductive Document where
  /-- The value `null`. -/
  | null
  /-- A truth value. -/
  | bool (b : Bool)
  /-- A 64-bit integer, signed or unsigned. -/
  | integer (i : Int)
  /-- Any other number. -/
  | decimal (x : Decimal)
  /-- A text. -/
  | text (s : String)
  /-- A list. -/
  | list (items : List Document)
  /-- An object, its members sorted by key. -/
  | object (members : List (String × Document))

namespace Document

/-- Put a member in its place among sorted members; a member with its key gives way to it. -/
def place (key : String) (value : Document) :
    List (String × Document) → List (String × Document)
  | [] => [(key, value)]
  | (k, v) :: rest =>
    match compare key k with
    | .lt => (key, value) :: (k, v) :: rest
    | .eq => (key, value) :: rest
    | .gt => (k, v) :: place key value rest

/-- Sort members by key; of those with one key the last stays. -/
def sorted (members : List (String × Document)) : List (String × Document) :=
  members.foldl (fun placed (key, value) => place key value placed) []

/-- The number that a numeral denotes. -/
def ofNumeral? (n : Numeral) : Option Document :=
  match n.toInt? with
  | some i =>
    if -9223372036854775808 ≤ i ∧ i < 18446744073709551616 then some (integer i)
    else (Decimal.read? n).map decimal
  | none => (Decimal.read? n).map decimal

/-- Read a document that nests at most `room` containers deep. -/
def read? : Nat → Json → Option Document
  | _, .null => some null
  | _, .bool b => some (bool b)
  | _, .number n => ofNumeral? n
  | _, .string literal => literal.map text
  | 0, .list _ => none
  | 0, .object _ => none
  | room + 1, .list items => (items.mapM fun item => read? room item).map list
  | room + 1, .object members =>
    (members.mapM fun (member : Literal × Json) => do
      some (← member.1, ← read? room member.2)).map fun members => object (sorted members)

mutual

/-- The JSON value of a document. -/
def toJson : Document → Json
  | null => .null
  | bool b => .bool b
  | integer i => .integer i
  | decimal x => .number x.numeral
  | text s => .text s
  | list items => .list (itemsToJson items)
  | object members => .object (membersToJson members)

/-- The JSON values of the items of a list. -/
def itemsToJson : List Document → List Json
  | [] => []
  | item :: items => item.toJson :: itemsToJson items

/-- The JSON members of an object. -/
def membersToJson : List (String × Document) → List (Literal × Json)
  | [] => []
  | (key, value) :: members => (some key, value.toJson) :: membersToJson members

end

end Document

end RegistryBench
