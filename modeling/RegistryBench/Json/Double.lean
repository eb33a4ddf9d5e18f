import RegistryBench.Json.Basic

/-!
# Numbers of double precision

A number in a free-form document that is no 64-bit integer has double precision. Reading takes the
leading digits of the numeral that fit into sixty-four bits, rounds them to the nearest binary64
number, and multiplies or divides that number by a power of ten, rounding again; so what is read
may lie a few steps beside the number that is nearest to the numeral. It is held by the shortest
decimal to which no other number is nearer. `Decimal.numeral` lays such a decimal out: positionally
up to sixteen digits before the point and four zeros after it, and with an exponent beyond.
-/

namespace RegistryBench

/-- A power of two. -/
def twoTo (k : Nat) : Nat := Nat.pow 2 k

/-- A power of ten. -/
def tenTo (k : Nat) : Nat := Nat.pow 10 k

/-- A non-negative number `mantissa * 2 ^ exponent` of double precision. The mantissa has
fifty-three bits, or the exponent is the least one. -/
structure Binary64 where
  /-- The significant bits. -/
  mantissa : Nat
  /-- The power of two. -/
  exponent : Int
deriving DecidableEq

namespace Binary64

/-- The least exponent. -/
def leastExponent : Int := -1074

/-- The greatest exponent. -/
def greatestExponent : Int := 971

/-- A quotient rounded to the nearest natural number, ties to even. -/
def divideToEven (n d : Nat) : Nat :=
  let q := n / d
  let r := n % d
  if 2 * r < d ∨ (2 * r = d ∧ q % 2 = 0) then q else q + 1

/-- The ratio `n / d` divided by `2 ^ exponent`, as a ratio. -/
def scale (n d : Nat) (exponent : Int) : Nat × Nat :=
  (n * twoTo (-exponent).toNat, d * twoTo exponent.toNat)

/-- The number nearest to the ratio `n / d`, or `none` when it is too large. -/
def ofRatio? (n d : Nat) : Option Binary64 :=
  if n = 0 then some ⟨0, leastExponent⟩
  else
    let guess : Int := (n.log2 : Int) - d.log2 - 53
    let (p, q) := scale n d guess
    let exponent := max (if twoTo 53 * q ≤ p then guess + 1 else guess) leastExponent
    let (p, q) := scale n d exponent
    let mantissa := divideToEven p q
    let rounded : Binary64 :=
      if mantissa = twoTo 53 then ⟨twoTo 52, exponent + 1⟩ else ⟨mantissa, exponent⟩
    if greatestExponent < rounded.exponent then none else some rounded

/-- The number nearest to `digits * 10 ^ exponent`. Far outside the range of exponents the answer
does not depend on the digits. -/
def ofDecimal? (digits : Nat) (exponent : Int) : Option Binary64 :=
  let magnitude : Int := (Nat.toDigits 10 digits).length + exponent
  if digits = 0 ∨ magnitude < -330 then some ⟨0, leastExponent⟩
  else if 320 < magnitude then none
  else ofRatio? (digits * tenTo exponent.toNat) (tenTo (-exponent).toNat)

/-- A number as a ratio. -/
def ratio (x : Binary64) : Nat × Nat :=
  (x.mantissa * twoTo x.exponent.toNat, twoTo (-x.exponent).toNat)

/-- A product, rounded; or `none` when it is too large. -/
def mul? (x y : Binary64) : Option Binary64 :=
  ofRatio? (x.ratio.1 * y.ratio.1) (x.ratio.2 * y.ratio.2)

/-- A quotient by a number other than zero, rounded; or `none` when it is too large. -/
def div? (x y : Binary64) : Option Binary64 :=
  ofRatio? (x.ratio.1 * y.ratio.2) (x.ratio.2 * y.ratio.1)

/-- The greatest power of ten that is not too large. -/
def greatestTen : Nat := 308

/-- A power of ten, rounded; or `none` when it is too large. -/
def ten? (k : Nat) : Option Binary64 :=
  ofRatio? (tenTo k) 1

/-- A number divided so many times by the greatest power of ten, as long as something is left. -/
def shrink? (x : Binary64) : Nat → Option Binary64
  | 0 => some x
  | count + 1 =>
    if x.mantissa = 0 then some x
    else do (← x.div? (← ten? greatestTen)).shrink? count

/-- A number times a power of ten, or `none` when that is too large. A power that is too small is
reached by way of the greatest power of ten. -/
def shift? (x : Binary64) (power : Int) : Option Binary64 :=
  let size := power.natAbs
  if power < 0 then do
    let count := (size - 1) / greatestTen
    (← x.shrink? count).div? (← ten? (size - count * greatestTen))
  else if size ≤ greatestTen then do x.mul? (← ten? size)
  else if x.mantissa = 0 then some x
  else none

/-- The greatest `k` below `limit` with `10 ^ k * d ≤ n`, counted from `k`. -/
def powerFrom (n d : Nat) : Nat → Nat → Nat
  | 0, k => k
  | limit + 1, k => if tenTo (k + 1) * d ≤ n then powerFrom n d limit (k + 1) else k

/-- The power of ten of the leading digit of the ratio `n / d`, which is not zero. -/
def leadingPower (n d : Nat) : Int :=
  if d ≤ n then powerFrom n d 400 0
  else -(powerFrom (d - 1) n 400 0 : Int) - 1

/-- A decimal with `count` digits that rounds to `x`, the nearer of the two around it, if any. When
the upper one is a power of ten, it has one digit. -/
def withDigits? (x : Binary64) (count : Nat) : Option (Nat × Int) :=
  let (n, d) := x.ratio
  let power := leadingPower n d - count + 1
  let p := n * tenTo (-power).toNat
  let q := d * tenTo power.toNat
  let below := p / q
  let fits (digits : Nat) : Bool := ofDecimal? digits power = some x
  let low := fits below
  let high := fits (below + 1)
  let decimal (digits : Nat) : Nat × Int :=
    if digits = tenTo count then (1, power + count) else (digits, power)
  if low && high then some (decimal (if divideToEven p q = below then below else below + 1))
  else if low then some (decimal below)
  else if high then some (decimal (below + 1))
  else none

/-- The shortest decimal that rounds to `x`. -/
def shortest? (x : Binary64) : Option (Nat × Int) :=
  if x.mantissa = 0 then some (0, 0)
  else (List.range 17).firstM fun count => withDigits? x (count + 1)

end Binary64

/-- A number of double precision: a sign and the shortest decimal of its size. -/
structure Decimal where
  /-- Whether a minus sign stands in front. -/
  negative : Bool
  /-- The digits, as a number. -/
  digits : Nat
  /-- The power of ten of the last digit. -/
  exponent : Int
deriving DecidableEq

namespace Decimal

/-- Put digits after a significand as long as it fits into sixty-four bits; with what is left of
them. -/
def absorb (significand : Nat) : List Nat → Nat × List Nat
  | [] => (significand, [])
  | d :: digits =>
    if 10 * significand + d < 18446744073709551616 then absorb (10 * significand + d) digits
    else (significand, d :: digits)

/-- The significand of a numeral and its power of ten. Each digit before the point that does not
fit counts as a power of ten, and digits after the point are taken anew. -/
def significand (n : Numeral) : Nat × Int :=
  let whole := (Nat.toDigits 10 n.whole).map fun c => c.toNat - '0'.toNat
  let (significand, dropped) := absorb 0 whole
  let (significand, left) := absorb significand (n.fraction.map Fin.val)
  (significand, n.exponent.getD 0 + dropped.length + left.length - n.fraction.length)

/-- The double precision number that a numeral denotes, or `none` when it is too large. -/
def read? (n : Numeral) : Option Decimal := do
  let (significand, power) := significand n
  let (digits, exponent) ← (← (← Binary64.ofRatio? significand 1).shift? power).shortest?
  some ⟨n.negative, digits, exponent⟩

/-- The last `count` digits of a number, leading zeros included. -/
def lastDigits (n : Nat) : Nat → List (Fin 10)
  | 0 => []
  | count + 1 => lastDigits (n / 10) count ++ [⟨n % 10, Nat.mod_lt _ (by decide)⟩]

/-- How a number is laid out. -/
def numeral (x : Decimal) : Numeral :=
  let count := (Nat.toDigits 10 x.digits).length
  let point : Int := count + x.exponent
  if x.digits = 0 then ⟨x.negative, 0, [0], none⟩
  else if 0 ≤ x.exponent ∧ point ≤ 16 then
    ⟨x.negative, x.digits * tenTo x.exponent.toNat, [0], none⟩
  else if -5 < point ∧ point ≤ 16 then
    let places := (-x.exponent).toNat
    ⟨x.negative, x.digits / tenTo places, lastDigits x.digits places, none⟩
  else
    ⟨x.negative, x.digits / tenTo (count - 1), lastDigits x.digits (count - 1), some (point - 1)⟩

end Decimal

end RegistryBench
