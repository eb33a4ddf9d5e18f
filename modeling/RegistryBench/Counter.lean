import Std.Data.ExtTreeMap

/-!
# Counters

A counter keeps a number for each key. What was counted can be compared with what was expected:
the difference has the keys where the two disagree, and a missing key counts as zero.

Numbers have 64 bits, one of them for the sign. What does not fit wraps around: `wrap` is the number
that a sum or a difference leaves. A build that checks for this stops there instead, so where
nothing leaves the range the two do the same.
-/

namespace RegistryBench

namespace Counter

/-- A number fits in 64 bits, with its sign. -/
def InRange (number : Int) : Prop :=
  -9223372036854775808 ≤ number ∧ number < 9223372036854775808

instance (number : Int) : Decidable (InRange number) :=
  inferInstanceAs (Decidable (-9223372036854775808 ≤ number ∧ number < 9223372036854775808))

/-- What 64 bits keep of a result. -/
def wrap (result : Int) : Int :=
  result.bmod 18446744073709551616

/-- What is kept fits. -/
theorem inRange_wrap (result : Int) : InRange (wrap result) := by
  have hlower : -((18446744073709551616 : Nat) / 2 : Int) ≤ wrap result := Int.le_bmod (by decide)
  have hupper : wrap result < ((18446744073709551616 : Nat) + 1 : Int) / 2 :=
    Int.bmod_lt (by decide)
  unfold InRange
  omega

end Counter

/-- Numbers by key. -/
@[ext]
structure Counter where
  /-- The number of each key that was counted. -/
  values : Std.ExtTreeMap String Int
  /-- Each of them fits. -/
  inRange : ∀ (key : String) (number : Int), values[key]? = some number → Counter.InRange number
deriving DecidableEq

namespace Counter

/-- A counter that has counted nothing. -/
def empty : Counter where
  values := ∅
  inRange key number h := by
    rw [Std.ExtTreeMap.getElem?_empty] at h
    contradiction

/-- The number of a key in a table, zero when it is missing. -/
def numberOf (table : Std.ExtTreeMap String Int) (key : String) : Int :=
  table[key]?.getD 0

/-- The number of a key. -/
def get (counter : Counter) (key : String) : Int :=
  numberOf counter.values key

/-- Add to the number of a key. -/
def add (counter : Counter) (key : String) (delta : Int) : Counter where
  values := counter.values.insert key (wrap (counter.get key + delta))
  inRange other number h := by
    rw [Std.ExtTreeMap.getElem?_insert] at h
    split at h
    next => exact Option.some.inj h ▸ inRange_wrap _
    next => exact counter.inRange other number h

/-- Note the difference that a key and its number give, if any. -/
def note (difference? : String → Int → Option Int) (noted : Std.ExtTreeMap String Int)
    (key : String) (number : Int) : Std.ExtTreeMap String Int :=
  match difference? key number with
  | some difference => noted.insert key difference
  | none => noted

/-- Note the differences that the entries of a table give. -/
def noteAll (difference? : String → Int → Option Int) (table noted : Std.ExtTreeMap String Int) :
    Std.ExtTreeMap String Int :=
  table.foldl (note difference?) noted

/-- The difference at a key that was counted. -/
def countedDifference? (want : Std.ExtTreeMap String Int) (key : String) (number : Int) :
    Option Int :=
  let difference := wrap (number - numberOf want key)
  if difference ≠ 0 then some difference else none

/-- The difference at a key that was expected, when it was not counted. -/
def unmetDifference? (counter : Counter) (key : String) (expected : Int) : Option Int :=
  if key ∉ counter.values ∧ expected ≠ 0 then some (wrap (-expected)) else none

/-- How much was counted beyond what was expected, for the keys where that is not zero: first those
that were counted, then those that were only expected. -/
def diff (counter : Counter) (want : Std.ExtTreeMap String Int) : Std.ExtTreeMap String Int :=
  noteAll counter.unmetDifference? want (noteAll (countedDifference? want) counter.values ∅)

end Counter

end RegistryBench
