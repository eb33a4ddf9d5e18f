/-!
# Punycode

Names of hosts are written in ASCII. A part of a name with other characters is written as its ASCII
characters, a hyphen, and digits that say which other characters go where. They are taken in
ascending order; each is written as the number of places to skip, from one place and character to
the next, in digits whose bases adapt to the numbers before.
-/

namespace RegistryBench.Text.Punycode

/-- A digit: 26 letters, then the 10 decimal digits. -/
def digitChar (digit : Nat) : Char :=
  Char.ofNat (if digit < 26 then 'a'.toNat + digit else '0'.toNat + (digit - 26))

/-- From which digit on another one follows, at a place counted in steps of 36. -/
def threshold (bias place : Nat) : Nat :=
  if place ≤ bias then 1 else min 26 (place - bias)

/-- Another digit always leaves less to write. -/
theorem threshold_pos (bias place : Nat) : 0 < threshold bias place := by
  unfold threshold
  split <;> omega

/-- The digits of a number, from a place on. -/
def digits (bias place n : Nat) : List Char :=
  let least := threshold bias place
  if n < least then [digitChar n]
  else
    digitChar (least + (n - least) % (36 - least)) ::
      digits bias (place + 36) ((n - least) / (36 - least))
termination_by n
decreasing_by
  have h := threshold_pos bias place
  have := Nat.div_le_self (n - threshold bias place) (36 - threshold bias place)
  omega

/-- The bias for numbers of about the size of `n`. -/
def biasFor (n : Nat) : Nat :=
  if 455 < n then 36 + biasFor (n / 35) else 36 * n / (n + 38)
termination_by n
decreasing_by omega

/-- The bias after a number, when so many characters are placed. -/
def adapt (n placed : Nat) (isFirst : Bool) : Nat :=
  let halved := if isFirst then n / 700 else n / 2
  biasFor (halved + halved / placed)

/-- How far the encoding of a name has come. -/
structure Encoder where
  /-- The digits so far. -/
  output : List Char
  /-- The number of places to skip. -/
  skipped : Nat
  /-- The bias of the next number. -/
  bias : Nat
  /-- The number of characters that are placed. -/
  placed : Nat
  /-- Whether no number has been written yet. -/
  isFirst : Bool

/-- Pass one character of the name when those with the code point `code` are placed. -/
def Encoder.pass (code : Nat) (encoder : Encoder) (c : Char) : Encoder :=
  if c.toNat < code then { encoder with skipped := encoder.skipped + 1 }
  else if c.toNat = code then {
    output := encoder.output ++ digits encoder.bias 36 encoder.skipped
    skipped := 0
    bias := adapt encoder.skipped (encoder.placed + 1) encoder.isFirst
    placed := encoder.placed + 1
    isFirst := false }
  else encoder

/-- Place the characters with each of the code points, which ascend; those below `next` are
placed. -/
def Encoder.place (name : List Char) (next : Nat) : List Nat → Encoder → Encoder
  | [], encoder => encoder
  | code :: codes, encoder =>
    let skipped := encoder.skipped + (code - next) * (encoder.placed + 1)
    let encoder := name.foldl (pass code) { encoder with skipped }
    place name (code + 1) codes { encoder with skipped := encoder.skipped + 1 }

/-- Insert a code point into others that ascend, unless it is there. -/
def insertCode (code : Nat) : List Nat → List Nat
  | [] => [code]
  | least :: rest =>
    if code < least then code :: least :: rest
    else if code = least then least :: rest
    else least :: insertCode code rest

/-- Whether a character is one of ASCII. -/
def isAscii (c : Char) : Bool :=
  c.toNat < 0x80

/-- The written form of a name. -/
def encode (name : List Char) : List Char :=
  let ascii := name.filter isAscii
  let others := (name.filter fun c => !isAscii c).foldr (fun c codes => insertCode c.toNat codes) []
  let encoder := Encoder.place name 0x80 others ⟨[], 0, 72, ascii.length, true⟩
  (if ascii = [] then [] else ascii ++ ['-']) ++ encoder.output

end RegistryBench.Text.Punycode
