import RegistryBench.Text.Hex

/-!
# Escapes in URLs

A percent sign and two hexadecimal digits stand for an octet. Each part of a URL escapes the
characters that are not printable ASCII, and some others: those that would end it, and those that
other texts around a URL use.
-/

namespace RegistryBench.Url

/-- The characters that a fragment escapes besides those that are not printable ASCII. -/
def fragmentEscapes : List Char := [' ', '\"', '<', '>', '\x60']

/-- The characters that a query escapes. -/
def queryEscapes : List Char := [' ', '\"', '<', '>', '#']

/-- The characters that a path escapes. -/
def pathEscapes : List Char := fragmentEscapes ++ ['#', '?', '\x7b', '\x7d']

/-- The characters that user information escapes. -/
def userInfoEscapes : List Char :=
  pathEscapes ++ ['/', ':', ';', '=', '@', '[', '\\', ']', '^', '|']

/-- The escape of an octet: a percent sign and two upper-case digits. -/
def escapeOctet (octet : UInt8) : List Char :=
  '%' :: (Text.hexPair octet).map Char.toUpper

/-- A character as it is, or escaped where it has to be. -/
def escapeChar (escapes : List Char) (c : Char) : List Char :=
  if c.toNat < 0x20 ∨ 0x7E < c.toNat ∨ c ∈ escapes then
    (Text.utf8 c.toString).flatMap escapeOctet
  else [c]

/-- A text with the characters escaped that have to be. -/
def escape (escapes : List Char) (text : List Char) : String :=
  String.ofList (text.flatMap (escapeChar escapes))

/-- The octet that three octets are the escape of. -/
def escaped? (mark high low : UInt8) : Option UInt8 := do
  guard (mark = 0x25)
  some (UInt8.ofNat ((← Text.hexValue? high) * 16 + (← Text.hexValue? low)))

/-- Octets with the escapes among them replaced by what they stand for. A percent sign without two
digits stands for itself. -/
def unescape : Bytes → Bytes
  | octet :: high :: low :: rest =>
    match escaped? octet high low with
    | some meant => meant :: unescape rest
    | none => octet :: unescape (high :: low :: rest)
  | rest => rest

end RegistryBench.Url
