import RegistryBench.Json.Token

/-!
# Reading JSON

The tokens of a text are read one after the other; between two tokens the reader holds what has
been read as a stack of open containers and knows what may come next. A text is a value when its
tokens lead from the start to a finished value. There is no limit on nesting here.
-/

namespace RegistryBench.Json

/-- A container that is still open, with what it holds so far, latest first. -/
inductive Open where
  /-- A list and its items. -/
  | list (items : List Json)
  /-- An object, its members, and the key whose value is being read. -/
  | object (members : List (Literal × Json)) (key : Literal)

/-- What has been read, and so what may come next. -/
inductive Progress where
  /-- A value must come. -/
  | value (stack : List Open)
  /-- A list was opened: its first item, or its end. -/
  | listStart (stack : List Open)
  /-- A list holds these items: a comma, or its end. -/
  | listNext (items : List Json) (stack : List Open)
  /-- An object was opened: its first key, or its end. -/
  | objectStart (stack : List Open)
  /-- A key of an object must come. -/
  | key (members : List (Literal × Json)) (stack : List Open)
  /-- The colon after a key must come. -/
  | colon (members : List (Literal × Json)) (key : Literal) (stack : List Open)
  /-- An object holds these members: a comma, or its end. -/
  | objectNext (members : List (Literal × Json)) (stack : List Open)
  /-- The whole value has been read: nothing may come. -/
  | finished (value : Json)

namespace Progress

/-- Hand a value that is complete to the innermost open container. -/
def deliver (v : Json) : List Open → Progress
  | [] => finished v
  | .list items :: stack => listNext (v :: items) stack
  | .object members k :: stack => objectNext ((k, v) :: members) stack

/-- Read a token where a value may begin. -/
def start? (stack : List Open) : Token → Option Progress
  | .null => some (deliver .null stack)
  | .bool b => some (deliver (.bool b) stack)
  | .number n => some (deliver (.number n) stack)
  | .string s => some (deliver (.string s) stack)
  | .openList => some (listStart stack)
  | .openObject => some (objectStart stack)
  | _ => none

/-- Read one token, or `none` when it may not come here. -/
def step? : Progress → Token → Option Progress
  | value stack, token => start? stack token
  | listStart stack, .closeList => some (deliver (.list []) stack)
  | listStart stack, token => start? (.list [] :: stack) token
  | listNext items stack, .comma => some (value (.list items :: stack))
  | listNext items stack, .closeList => some (deliver (.list items.reverse) stack)
  | objectStart stack, .closeObject => some (deliver (.object []) stack)
  | objectStart stack, .string k => some (colon [] k stack)
  | key members stack, .string k => some (colon members k stack)
  | colon members k stack, .colon => some (value (.object members k :: stack))
  | objectNext members stack, .comma => some (key members stack)
  | objectNext members stack, .closeObject => some (deliver (.object members.reverse) stack)
  | _, _ => none

/-- Read tokens one after the other. -/
def run? : Progress → List Token → Option Progress
  | progress, [] => some progress
  | progress, token :: tokens =>
    match progress.step? token with
    | none => none
    | some progress => run? progress tokens

/-- The value read, when it is finished. -/
def result? : Progress → Option Json
  | finished v => some v
  | _ => none

end Progress

/-- The value that a sequence of tokens denotes. -/
def ofTokens? (tokens : List Token) : Option Json :=
  ((Progress.value []).run? tokens).bind Progress.result?

/-- The value that some octets denote: one value, with nothing but blanks around it. -/
def read? (octets : Bytes) : Option Json :=
  (Token.tokenize? octets).bind ofTokens?

end RegistryBench.Json
