import RegistryBench.Text.Blank
import RegistryBench.Text.Utf8

/-!
# Durations as people write them

A duration is a sum of numbers with units: `2m 5s`, `1.5 h`. Blanks may stand anywhere but inside
a unit. A number may have a fraction as long as it comes to a whole number of nanoseconds, or of
seconds for hours and longer units. All arithmetic is on 64-bit natural numbers, and the first
fault met from left to right counts.
-/

namespace RegistryBench

/-- A length of time. -/
structure Duration where
  /-- Whole seconds. -/
  seconds : Nat
  /-- Nanoseconds beyond them. -/
  nanos : Nat
deriving DecidableEq, Inhabited

namespace Duration

/-- Why a text is no duration. Places are counted in octets. -/
inductive Fault where
  /-- A character that may not stand there. -/
  | invalidCharacter (place : Nat)
  /-- A number was expected. -/
  | numberExpected (place : Nat)
  /-- A unit that does not exist. -/
  | unknownUnit (name : String)
  /-- A number without a unit. -/
  | unitNeeded (whole : Nat)
  /-- A number outside the range, or finer than the unit allows. -/
  | unrepresentable
  /-- Nothing at all. -/
  | empty
deriving DecidableEq

/-- The text of a fault. -/
def Fault.message : Fault → String
  | invalidCharacter place => "invalid character at " ++ place.repr
  | numberExpected place => "expected number at " ++ place.repr
  | unknownUnit name =>
    "unknown time unit \"" ++ name ++ "\", supported units: ns, us/µs, ms, sec, min, hours, " ++
      "days, weeks, months, years (and few variations)"
  | unitNeeded whole =>
    "time unit needed, for example " ++ whole.repr ++ "sec or " ++ whole.repr ++ "ms"
  | unrepresentable =>
    "number is too large or cannot be represented without a lack of precision " ++
      "(values below 1ns are not supported)"
  | empty => "value was empty"

/-! ### Arithmetic -/

/-- A number that fits into sixty-four bits. -/
def limited (n : Nat) : Except Fault Nat :=
  if n < 18446744073709551616 then .ok n else .error .unrepresentable

/-- A quotient that leaves no remainder. -/
def exactly (n d : Nat) : Except Fault Nat :=
  if n % d = 0 then .ok (n / d) else .error .unrepresentable

/-- The nanoseconds of a second. -/
def nanosPerSecond : Nat := 1000000000

/-- The duration of some seconds and nanoseconds, of which any number of whole seconds may be
part. -/
def ofParts (seconds nanos : Nat) : Duration :=
  ⟨seconds + nanos / nanosPerSecond, nanos % nanosPerSecond⟩

/-- Add seconds and nanoseconds to a duration. -/
def add (total : Duration) (seconds nanos : Nat) : Except Fault Duration := do
  let nanos ← limited (total.nanos + nanos)
  let seconds ← limited (seconds + nanos / nanosPerSecond)
  let seconds ← limited (total.seconds + seconds)
  return ⟨seconds, nanos % nanosPerSecond⟩

/-! ### Units -/

/-- What a unit is a multiple of, and which parts of it are allowed. -/
inductive Scale where
  /-- One nanosecond, without parts. -/
  | nano
  /-- So many nanoseconds, of which whole ones may be part. -/
  | nanos (count : Nat)
  /-- So many seconds, with parts down to the nanosecond. -/
  | fine (seconds : Nat)
  /-- So many seconds, of which whole ones may be part. -/
  | coarse (seconds : Nat)
deriving DecidableEq

/-- The units with their names. -/
def units : List (List String × Scale) :=
  [(["nanos", "nsec", "ns"], .nano),
    (["usec", "us", "µs"], .nanos 1000),
    (["millis", "msec", "ms"], .nanos 1000000),
    (["seconds", "second", "secs", "sec", "s"], .fine 1),
    (["minutes", "minute", "min", "mins", "m"], .fine 60),
    (["hours", "hour", "hr", "hrs", "h"], .coarse 3600),
    (["days", "day", "d"], .coarse 86400),
    (["weeks", "week", "wk", "wks", "w"], .coarse 604800),
    (["months", "month", "M"], .coarse 2630016),
    (["years", "year", "yr", "yrs", "y"], .coarse 31557600)]

/-- The unit of some name. -/
def scale? (name : String) : Option Scale :=
  (units.find? fun (names, _) => names.contains name).map (·.2)

/-- The part of a number after its point: digits, and the power of ten they are divided by. -/
structure Fraction where
  /-- The digits as a number. -/
  numerator : Nat
  /-- The power of ten. -/
  denominator : Nat
deriving DecidableEq

/-- Seconds and nanoseconds of a whole number of units. -/
def wholeUnits (n : Nat) : Scale → Except Fault (Nat × Nat)
  | .nano => .ok (0, n)
  | .nanos count => (limited (n * count)).map fun nanos => (0, nanos)
  | .fine seconds => (limited (n * seconds)).map fun seconds => (seconds, 0)
  | .coarse seconds => (limited (n * seconds)).map fun seconds => (seconds, 0)

/-- Seconds and nanoseconds of a fraction of a unit. -/
def partUnit (f : Fraction) : Scale → Except Fault (Nat × Nat)
  | .nano => .error .unrepresentable
  | .nanos count => do
    let nanos ← exactly (← limited (f.numerator * count)) f.denominator
    return (0, nanos)
  | .fine seconds => do
    let nanos ← exactly (← limited (f.numerator * (seconds * nanosPerSecond))) f.denominator
    return (0, nanos)
  | .coarse seconds => do
    let seconds ← exactly (← limited (f.numerator * seconds)) f.denominator
    return (seconds, 0)

/-- A number as it was read. -/
structure Amount where
  /-- The part before the point. -/
  whole : Nat
  /-- The part after the point. -/
  fraction : Option Fraction
deriving DecidableEq

/-- Add an amount of the unit of some name to a duration. -/
def addUnit (total : Duration) (amount : Amount) (name : String) : Except Fault Duration :=
  match scale? name with
  | none =>
    .error (if name = "" then .unitNeeded amount.whole else .unknownUnit name)
  | some scale => do
    let (seconds, nanos) ← wholeUnits amount.whole scale
    let total ← total.add seconds nanos
    match amount.fraction with
    | none => return total
    | some f =>
      let (seconds, nanos) ← partUnit f scale
      total.add seconds nanos

/-! ### Reading -/

/-- The value of a digit. -/
def digit? (c : Char) : Option Nat :=
  if c.isDigit then some (c.toNat - '0'.toNat) else none

/-- Whether a character may stand in the name of a unit. -/
def isUnitChar (c : Char) : Bool :=
  c.isAlpha || c == 'µ'

/-- What is being read. -/
inductive Progress where
  /-- A number must come, or the end; it was looked for from this place on. -/
  | seeking (place : Nat)
  /-- The part of a number before its point. -/
  | whole (n : Nat)
  /-- The part of a number after its point; with the place after what was read of it last, or that
  of the point. -/
  | fraction (n : Nat) (f : Fraction) (place : Nat)
  /-- The name of a unit, latest character first. -/
  | unit (amount : Amount) (name : List Char)

/-- A number goes on with a digit. -/
def appendDigit (n d : Nat) : Except Fault Nat :=
  limited (n * 10 + d)

/-- The amount of a number whose fraction ends, which must have a digit. -/
def endFraction (n : Nat) (f : Fraction) (place : Nat) : Except Fault Amount :=
  if f.denominator = 1 then .error (.invalidCharacter place) else .ok ⟨n, some f⟩

/-- Read one character that stands at `place`. -/
def step (total : Duration) (place : Nat) (c : Char) :
    Progress → Except Fault (Duration × Progress)
  | .seeking start =>
    match digit? c with
    | some d => .ok (total, .whole d)
    | none =>
      if Text.isBlank c then .ok (total, .seeking start) else .error (.numberExpected start)
  | .whole n =>
    match digit? c with
    | some d => (appendDigit n d).map fun n => (total, .whole n)
    | none =>
      if Text.isBlank c then .ok (total, .whole n)
      else if isUnitChar c then .ok (total, .unit ⟨n, none⟩ [c])
      else if c = '.' then .ok (total, .fraction n ⟨0, 1⟩ place)
      else .error (.invalidCharacter place)
  | .fraction n f last =>
    match digit? c with
    | some d => do
      let denominator ← limited (f.denominator * 10)
      let numerator ← appendDigit f.numerator d
      return (total, .fraction n ⟨numerator, denominator⟩ (place + c.utf8Size))
    | none =>
      if Text.isBlank c then .ok (total, .fraction n f (place + c.utf8Size))
      else if isUnitChar c then
        (endFraction n f last).map fun amount => (total, .unit amount [c])
      else .error (.invalidCharacter last)
  | .unit amount name =>
    match digit? c with
    | some d => (total.addUnit amount (String.ofList name.reverse)).map fun total =>
        (total, .whole d)
    | none =>
      if Text.isBlank c then
        (total.addUnit amount (String.ofList name.reverse)).map fun total =>
          (total, .seeking (place + c.utf8Size))
      else if isUnitChar c then .ok (total, .unit amount (c :: name))
      else .error (.invalidCharacter place)

/-- The duration at the end of the text. -/
def finish (total : Duration) : Progress → Except Fault Duration
  | .seeking _ => .ok total
  | .whole n => total.addUnit ⟨n, none⟩ ""
  | .fraction n f last => do total.addUnit (← endFraction n f last) ""
  | .unit amount name => total.addUnit amount (String.ofList name.reverse)

/-- Read the characters of a text from `place` on. -/
def readFrom (total : Duration) (place : Nat) (progress : Progress) :
    List Char → Except Fault Duration
  | [] => finish total progress
  | c :: rest => do
    let (total, progress) ← step total place c progress
    readFrom total (place + c.utf8Size) progress rest

/-- No time at all. -/
def zero : Duration := ⟨0, 0⟩

/-- Read a duration. A zero may stand without a unit when it stands alone. -/
def parse (text : String) : Except Fault Duration :=
  if text = "0" then .ok zero
  else if text.toList.all Text.isBlank then .error .empty
  else readFrom zero 0 (.seeking 0) text.toList

end Duration

end RegistryBench
