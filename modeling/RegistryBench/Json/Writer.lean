import RegistryBench.Json.Token

/-!
# Writing JSON

Two layouts of one sequence of tokens: compact, with nothing between tokens, and indented, with
each item and member on a line of its own, two blanks deeper than its container, and one blank
after a colon. Empty containers have nothing inside in either layout.
-/

namespace RegistryBench.Json

mutual

/-- The compact layout. -/
def compact : Json → Bytes
  | null => Token.null.write
  | bool b => (Token.bool b).write
  | number n => (Token.number n).write
  | string s => (Token.string s).write
  | list items => Token.openList.write ++ compactItems items ++ Token.closeList.write
  | object members => Token.openObject.write ++ compactMembers members ++ Token.closeObject.write

/-- The compact layout of the items of a list. -/
def compactItems : List Json → Bytes
  | [] => []
  | [item] => item.compact
  | item :: items => item.compact ++ Token.comma.write ++ compactItems items

/-- The compact layout of the members of an object. -/
def compactMembers : List (Literal × Json) → Bytes
  | [] => []
  | [(key, value)] => Token.writeLiteral key ++ Token.colon.write ++ value.compact
  | (key, value) :: members =>
    Token.writeLiteral key ++ Token.colon.write ++ value.compact ++ Token.comma.write ++
      compactMembers members

end

/-- A line feed and the blanks of a line at some depth. -/
def newLine (depth : Nat) : Bytes :=
  0x0A :: List.replicate (2 * depth) 0x20

mutual

/-- The indented layout of a value whose line is at `depth`. -/
def indentedAt (depth : Nat) : Json → Bytes
  | null => Token.null.write
  | bool b => (Token.bool b).write
  | number n => (Token.number n).write
  | string s => (Token.string s).write
  | list [] => Token.openList.write ++ Token.closeList.write
  | list (item :: items) =>
    Token.openList.write ++ indentedItems (depth + 1) (item :: items) ++ newLine depth ++
      Token.closeList.write
  | object [] => Token.openObject.write ++ Token.closeObject.write
  | object (member :: members) =>
    Token.openObject.write ++ indentedMembers (depth + 1) (member :: members) ++ newLine depth ++
      Token.closeObject.write

/-- The indented layout of the items of a list, each on a line at `depth`. -/
def indentedItems (depth : Nat) : List Json → Bytes
  | [] => []
  | [item] => newLine depth ++ indentedAt depth item
  | item :: items =>
    newLine depth ++ indentedAt depth item ++ Token.comma.write ++ indentedItems depth items

/-- The indented layout of the members of an object, each on a line at `depth`. -/
def indentedMembers (depth : Nat) : List (Literal × Json) → Bytes
  | [] => []
  | [(key, value)] =>
    newLine depth ++ Token.writeLiteral key ++ Token.colon.write ++ 0x20 :: indentedAt depth value
  | (key, value) :: members =>
    newLine depth ++ Token.writeLiteral key ++ Token.colon.write ++
      0x20 :: indentedAt depth value ++ Token.comma.write ++ indentedMembers depth members

end

/-- The indented layout. -/
def indented (value : Json) : Bytes :=
  indentedAt 0 value

end RegistryBench.Json
