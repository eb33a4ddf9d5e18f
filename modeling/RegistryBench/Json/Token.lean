import RegistryBench.Json.Basic
import RegistryBench.Text.Hex

/-!
# JSON tokens

A JSON text is a sequence of tokens with blanks between them. `Token.write` gives the octets of a
token and `tokenize?` divides octets into tokens. Numerals follow the JSON grammar exactly:
no leading zero, digits on both sides of a point, digits after an exponent sign.
-/

namespace RegistryBench

/-- The smallest unit of a JSON text. -/
inductive Token where
  /-- `[` -/
  | openList
  /-- `]` -/
  | closeList
  /-- An opening brace. -/
  | openObject
  /-- A closing brace. -/
  | closeObject
  /-- `,` -/
  | comma
  /-- `:` -/
  | colon
  /-- The literal `null`. -/
  | null
  /-- One of the literals `true` and `false`. -/
  | bool (b : Bool)
  /-- A number. -/
  | number (n : Numeral)
  /-- A string literal. -/
  | string (literal : Literal)
deriving DecidableEq

namespace Token

/-! ### Writing -/

/-- The digits of a natural number in base ten. -/
def decimal (n : Nat) : Bytes :=
  (Nat.toDigits 10 n).map fun c => UInt8.ofNat c.toNat

/-- The octet of a digit. -/
def digitOctet (d : Fin 10) : UInt8 :=
  UInt8.ofNat (0x30 + d.val)

/-- The octets of a numeral. An exponent has its sign in either case. -/
def writeNumeral (n : Numeral) : Bytes :=
  (if n.negative then [0x2D] else []) ++ decimal n.whole ++
  (if n.fraction = [] then [] else 0x2E :: n.fraction.map digitOctet) ++
  match n.exponent with
  | none => []
  | some e => 0x65 :: (if e < 0 then 0x2D else 0x2B) :: decimal e.natAbs

/-- How one octet of a text is written between quotation marks: quotation marks, backslashes and
control characters are escaped, all else stands for itself. -/
def escapeOctet (octet : UInt8) : Bytes :=
  if octet = 0x22 then [0x5C, 0x22]
  else if octet = 0x5C then [0x5C, 0x5C]
  else if octet = 0x08 then [0x5C, 0x62]
  else if octet = 0x0C then [0x5C, 0x66]
  else if octet = 0x0A then [0x5C, 0x6E]
  else if octet = 0x0D then [0x5C, 0x72]
  else if octet = 0x09 then [0x5C, 0x74]
  else if octet < 0x20 then
    [0x5C, 0x75, 0x30, 0x30] ++ (Text.hexPair octet).map fun c => UInt8.ofNat c.toNat
  else [octet]

/-- The octets of a string literal. A literal without text is written as a lone surrogate. -/
def writeLiteral : Literal → Bytes
  | some text => 0x22 :: (Text.utf8 text).flatMap escapeOctet ++ [0x22]
  | none => [0x22, 0x5C, 0x75, 0x64, 0x38, 0x30, 0x30, 0x22]

/-- The octets of a token. -/
def write : Token → Bytes
  | openList => [0x5B]
  | closeList => [0x5D]
  | openObject => [0x7B]
  | closeObject => [0x7D]
  | comma => [0x2C]
  | colon => [0x3A]
  | null => [0x6E, 0x75, 0x6C, 0x6C]
  | bool true => [0x74, 0x72, 0x75, 0x65]
  | bool false => [0x66, 0x61, 0x6C, 0x73, 0x65]
  | number n => writeNumeral n
  | string literal => writeLiteral literal

/-! ### Reading numerals -/

/-- The value of an octet that is a digit. -/
def digit? (octet : UInt8) : Option (Fin 10) :=
  if h : 0x30 ≤ octet.toNat ∧ octet.toNat < 0x3A then some ⟨octet.toNat - 0x30, by omega⟩ else none

/-- The digits at the front, and what follows them. -/
def takeDigits : Bytes → List (Fin 10) × Bytes
  | [] => ([], [])
  | octet :: rest =>
    match digit? octet with
    | none => ([], octet :: rest)
    | some d =>
      let (ds, rest) := takeDigits rest
      (d :: ds, rest)

/-- The number written by some digits. -/
def ofDigits (digits : List (Fin 10)) : Nat :=
  digits.foldl (fun n d => 10 * n + d.val) 0

/-- Whether a numeral begins with this octet and the octet is there: then what follows it. -/
def strip (octet : UInt8) : Bytes → Bool × Bytes
  | [] => (false, [])
  | o :: rest => if o = octet then (true, rest) else (false, o :: rest)

/-- Read the digits before the point: a single zero, or digits that do not begin with one. After a
zero the numeral may go on only with a point or an exponent, so nothing more is taken. -/
def readWhole? (octets : Bytes) : Option (Nat × Bytes) :=
  match takeDigits octets with
  | ([], _) => none
  | ([d], rest) => some (d.val, rest)
  | (d :: ds, rest) => if d.val = 0 then none else some (ofDigits (d :: ds), rest)

/-- Read a fraction, if a point follows. -/
def readFraction? (octets : Bytes) : Option (List (Fin 10) × Bytes) :=
  match strip 0x2E octets with
  | (false, _) => some ([], octets)
  | (true, rest) =>
    match takeDigits rest with
    | ([], _) => none
    | (ds, rest) => some (ds, rest)

/-- Read the digits of an exponent and its sign. -/
def readSigned? (octets : Bytes) : Option (Int × Bytes) :=
  let (minus, rest) := strip 0x2D octets
  let rest := if minus then rest else (strip 0x2B rest).2
  match takeDigits rest with
  | ([], _) => none
  | (ds, rest) =>
    let n : Int := ofDigits ds
    some (if minus then -n else n, rest)

/-- Read an exponent, if its letter follows. -/
def readExponent? (octets : Bytes) : Option (Option Int × Bytes) :=
  match octets with
  | [] => some (none, [])
  | octet :: rest =>
    if octet = 0x65 ∨ octet = 0x45 then
      (readSigned? rest).map fun (e, rest) => (some e, rest)
    else some (none, octet :: rest)

/-- Read a numeral at the front. -/
def readNumeral? (octets : Bytes) : Option (Numeral × Bytes) := do
  let (negative, rest) := strip 0x2D octets
  let (whole, rest) ← readWhole? rest
  let (fraction, rest) ← readFraction? rest
  let (exponent, rest) ← readExponent? rest
  some (⟨negative, whole, fraction, exponent⟩, rest)

/-! ### Reading string literals -/

/-- What an item between quotation marks stands for: an octet, or a UTF-16 unit written by its
number. -/
inductive Piece where
  /-- An octet, as it is or by a short escape. -/
  | octet (o : UInt8)
  /-- A UTF-16 unit, by a numbered escape. -/
  | unit (u : Nat)
deriving DecidableEq

/-- What the character after a backslash stands for, numbers apart. -/
def shortEscape? (octet : UInt8) : Option UInt8 :=
  if octet = 0x22 ∨ octet = 0x5C ∨ octet = 0x2F then some octet
  else if octet = 0x62 then some 0x08
  else if octet = 0x66 then some 0x0C
  else if octet = 0x6E then some 0x0A
  else if octet = 0x72 then some 0x0D
  else if octet = 0x74 then some 0x09
  else none

/-- The unit with these four hexadecimal digits. -/
def unit? (p q r s : UInt8) : Option Nat := do
  let p ← Text.hexValue? p
  let q ← Text.hexValue? q
  let r ← Text.hexValue? r
  let s ← Text.hexValue? s
  some (((p * 16 + q) * 16 + r) * 16 + s)

/-- Read the items of a string literal after its opening quotation mark, up to the closing one. -/
def readPieces? : Bytes → Option (List Piece × Bytes)
  | [] => none
  | octet :: rest =>
    if octet = 0x22 then some ([], rest)
    else if octet = 0x5C then
      match rest with
      | [] => none
      | escape :: rest =>
        if escape = 0x75 then
          match rest with
          | p :: q :: r :: s :: rest =>
            match unit? p q r s with
            | none => none
            | some u => (readPieces? rest).map fun (ps, rest) => (.unit u :: ps, rest)
          | _ => none
        else
          match shortEscape? escape with
          | none => none
          | some o => (readPieces? rest).map fun (ps, rest) => (.octet o :: ps, rest)
    else if octet < 0x20 then none
    else (readPieces? rest).map fun (ps, rest) => (.octet octet :: ps, rest)

/-- Whether a unit is the first half of a surrogate pair. -/
def isHighSurrogate (u : Nat) : Bool :=
  0xD800 ≤ u && u < 0xDC00

/-- Whether a unit is the second half of a surrogate pair. -/
def isLowSurrogate (u : Nat) : Bool :=
  0xDC00 ≤ u && u < 0xE000

/-- The octets of a code point. -/
def codeOctets (code : Nat) : Bytes :=
  Text.utf8 (String.singleton (Char.ofNat code))

/-- The octets that the items of a literal stand for; surrogates must come in pairs. -/
def assemble? : List Piece → Option Bytes
  | [] => some []
  | .octet o :: ps => (assemble? ps).map (o :: ·)
  | .unit u :: .unit v :: ps =>
    if isHighSurrogate u then
      if isLowSurrogate v then
        (assemble? ps).map (codeOctets (0x10000 + (u - 0xD800) * 0x400 + (v - 0xDC00)) ++ ·)
      else none
    else if isLowSurrogate u then none
    else (assemble? (.unit v :: ps)).map (codeOctets u ++ ·)
  | .unit u :: ps =>
    if isHighSurrogate u || isLowSurrogate u then none
    else (assemble? ps).map (codeOctets u ++ ·)

/-- The content of a literal with these items. -/
def content (pieces : List Piece) : Literal :=
  (assemble? pieces).bind Text.ofUtf8?

/-! ### Reading tokens -/

/-- Whether an octet is a blank between tokens: space, tab, line feed or carriage return. -/
def isBlank (octet : UInt8) : Bool :=
  octet == 0x20 || octet == 0x09 || octet == 0x0A || octet == 0x0D

/-- Read a word that must stand at the front. -/
def readWord? (word : Bytes) (token : Token) (octets : Bytes) : Option (Token × Bytes) :=
  if word.isPrefixOf octets then some (token, octets.drop word.length) else none

/-- Read the token at the front. -/
def next? : Bytes → Option (Token × Bytes)
  | [] => none
  | octet :: rest =>
    if octet = 0x5B then some (openList, rest)
    else if octet = 0x5D then some (closeList, rest)
    else if octet = 0x7B then some (openObject, rest)
    else if octet = 0x7D then some (closeObject, rest)
    else if octet = 0x2C then some (comma, rest)
    else if octet = 0x3A then some (colon, rest)
    else if octet = 0x22 then
      (readPieces? rest).map fun (pieces, rest) => (string (content pieces), rest)
    else if octet = 0x6E then readWord? (write null) null (octet :: rest)
    else if octet = 0x74 then readWord? (write (bool true)) (bool true) (octet :: rest)
    else if octet = 0x66 then readWord? (write (bool false)) (bool false) (octet :: rest)
    else (readNumeral? (octet :: rest)).map fun (n, rest) => (number n, rest)

/-- Divide octets into tokens, at most `limit` of them. -/
def tokenizeUpTo? : Nat → Bytes → Option (List Token)
  | limit, octets =>
    match octets.dropWhile isBlank with
    | [] => some []
    | octet :: rest =>
      match limit with
      | 0 => none
      | limit + 1 =>
        match next? (octet :: rest) with
        | none => none
        | some (token, rest) => (tokenizeUpTo? limit rest).map (token :: ·)

/-- Divide octets into tokens, or `none` when some octet begins no token. There are never more
tokens than octets. -/
def tokenize? (octets : Bytes) : Option (List Token) :=
  tokenizeUpTo? octets.length octets

end Token

end RegistryBench
