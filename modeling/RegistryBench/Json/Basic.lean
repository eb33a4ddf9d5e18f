import RegistryBench.Text.Utf8

/-!
# JSON syntax

A JSON value as it was written: members keep their order and may repeat a key, numbers keep the
shape of their numeral, and a string literal that denotes no text is kept as such. What a value
means for a type, and whether an odd literal matters, is decided where it is read.
-/

namespace RegistryBench

/-- A number as it is written: sign, whole part, and possibly a fraction and an exponent. -/
structure Numeral where
  /-- Whether a minus sign stands in front. -/
  negative : Bool
  /-- The digits before the point. -/
  whole : Nat
  /-- The digits after the point; there is no point when they are absent. -/
  fraction : List (Fin 10)
  /-- The exponent, when one is written. -/
  exponent : Option Int
deriving DecidableEq

namespace Numeral

/-- The numeral of a natural number. -/
def ofNat (n : Nat) : Numeral :=
  ⟨false, n, [], none⟩

/-- The numeral of an integer. -/
def ofInt (i : Int) : Numeral :=
  ⟨i < 0, i.natAbs, [], none⟩

/-- The integer a numeral denotes when it is written as one: without fraction and exponent, and
not as a negative zero. -/
def toInt? (n : Numeral) : Option Int :=
  if n.fraction ≠ [] ∨ n.exponent.isSome then none
  else if n.negative then
    if n.whole = 0 then none else some (-n.whole)
  else some n.whole

@[simp]
theorem toInt?_ofNat (n : Nat) : (ofNat n).toInt? = some (n : Int) := by
  simp [ofNat, toInt?]

@[simp]
theorem toInt?_ofInt (i : Int) : (ofInt i).toInt? = some i := by
  unfold ofInt toInt?
  by_cases h : i < 0
  · have hne : i.natAbs ≠ 0 := by omega
    have hneg : -(i.natAbs : Int) = i := by omega
    simp only [h, hne, hneg, ne_eq, not_true_eq_false, Option.isSome_none, Bool.false_eq_true,
      or_self, if_false, decide_true, if_true]
  · have hpos : (i.natAbs : Int) = i := by omega
    simp only [h, hpos, ne_eq, not_true_eq_false, Option.isSome_none, Bool.false_eq_true,
      or_self, if_false, decide_false]

end Numeral

/-- The content of a string literal: a text, or `none` when its escapes and octets denote none
(a lone surrogate, ill-formed UTF-8). -/
abbrev Literal := Option String

/-- A JSON value as written. -/
inductive Json where
  /-- The literal `null`. -/
  | null
  /-- One of the literals `true` and `false`. -/
  | bool (b : Bool)
  /-- A number. -/
  | number (n : Numeral)
  /-- A string. -/
  | string (literal : Literal)
  /-- A list. -/
  | list (items : List Json)
  /-- An object: its members in the order written, keys possibly repeated. -/
  | object (members : List (Literal × Json))

namespace Json

/-- The string value of a text. -/
def text (s : String) : Json :=
  string (some s)

/-- The number value of a natural number. -/
def natural (n : Nat) : Json :=
  number (.ofNat n)

/-- The number value of an integer. -/
def integer (i : Int) : Json :=
  number (.ofInt i)

/-- An object with the given members. -/
def record (members : List (String × Json)) : Json :=
  object (members.map fun (key, value) => (some key, value))

instance : Inhabited Json := ⟨null⟩

end Json

end RegistryBench
