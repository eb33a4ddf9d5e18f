import RegistryBench.Json.Codec

/-!
# Timestamps

A point in time as seconds and nanoseconds since the epoch. Reading carries whole seconds out of
the nanoseconds.
-/

namespace RegistryBench

/-- A point in time since the epoch. -/
structure Timestamp where
  /-- Whole seconds. -/
  seconds : Nat
  /-- Nanoseconds beyond them. -/
  nanos : Nat
deriving DecidableEq, Inhabited

namespace Timestamp

/-- The nanoseconds of a second. -/
def nanosPerSecond : Nat := 1000000000

/-- The point in time after some seconds and some nanoseconds, unless the seconds leave the signed
64-bit range. -/
def carry? (seconds nanos : Nat) : Option Timestamp :=
  let seconds := seconds + nanos / nanosPerSecond
  if seconds < 9223372036854775808 then some ⟨seconds, nanos % nanosPerSecond⟩ else none

/-- How the two numbers of a timestamp are written. -/
def fields : Fields (Nat × Nat) :=
  .cons (.required "secs_since_epoch" .natural64) <|
  .last (.required "nanos_since_epoch" .natural32)

/-- How timestamps are written and read. Unknown keys are refused. -/
def codec : Codec Timestamp where
  read room json :=
    ((fields.closedCodec id id).read room json).bind fun (seconds, nanos) => carry? seconds nanos
  write t := (fields.closedCodec id id).write (t.seconds, t.nanos)

end Timestamp

end RegistryBench
