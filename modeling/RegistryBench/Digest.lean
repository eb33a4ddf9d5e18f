import RegistryBench.Digest.Sha256
import RegistryBench.Text.Cut
import RegistryBench.Text.Hex
import RegistryBench.Text.Quoted

/-!
# Digests

A digest names content by an algorithm and the hexadecimal hash it gives: `sha256:9f86…`. Reading
one checks its grammar; content can be checked against a SHA-256 digest.
-/

namespace RegistryBench

/-- The name of some content: a hash algorithm and the hash in hexadecimal. -/
structure Digest where
  /-- The hash algorithm. -/
  algorithm : String
  /-- The hash, in lower-case hexadecimal. -/
  hex : String
deriving DecidableEq, Inhabited

namespace Digest

/-- The one algorithm that content can be checked with. -/
def sha256Name : String := "sha256"

/-- The written form, `algorithm:hex`. -/
def toText (digest : Digest) : String :=
  digest.algorithm ++ ":" ++ digest.hex

/-- The SHA-256 digest of some content. -/
def ofContent (content : Bytes) : Digest :=
  ⟨sha256Name, Text.hex (Sha256.hash content)⟩

/-- Why a text is no digest, or content does not match one. -/
inductive Fault
  /-- There is no colon. -/
  | noAlgorithm (raw : String)
  /-- The part before the colon is empty or has a character that no algorithm has. -/
  | malformedAlgorithm (raw : String)
  /-- The part after the colon is empty or not lower-case hexadecimal. -/
  | malformedHex (raw : String)
  /-- A SHA-256 hash has not sixty-four digits. -/
  | wrongLength (raw : String) (length : Nat)
  /-- Content cannot be checked with this algorithm. -/
  | unverifiable (algorithm : String)
  /-- The content has another digest than the expected one. -/
  | mismatch (actual expected : Digest)
deriving DecidableEq

/-- The text of a fault. -/
def Fault.message : Fault → String
  | noAlgorithm raw => Text.quote raw ++ " has no algorithm"
  | malformedAlgorithm raw => Text.quote raw ++ " has a malformed algorithm"
  | malformedHex raw => Text.quote raw ++ " has a malformed hex part"
  | wrongLength raw length =>
    Text.quote raw ++ " has " ++ length.repr ++ " hex characters, sha256 needs 64"
  | unverifiable algorithm => "cannot verify " ++ algorithm ++ " content"
  | mismatch actual expected =>
    "content hashes to " ++ actual.toText ++ ", expected " ++ expected.toText

/-- Whether a character may stand in the name of an algorithm. -/
def isAlgorithmChar (c : Char) : Bool :=
  ('a' ≤ c && c ≤ 'z') || c.isDigit || c == '+' || c == '.' || c == '_' || c == '-'

/-- Read a digest. The text is divided at its first colon. -/
def parse (raw : String) : Except Fault Digest :=
  match Text.cut? ':' raw with
  | none => .error (.noAlgorithm raw)
  | some (algorithm, hex) =>
    if algorithm.toList = [] ∨ ¬ algorithm.toList.all isAlgorithmChar then
      .error (.malformedAlgorithm raw)
    else if hex.toList = [] ∨ ¬ hex.toList.all Text.isLowerHex then
      .error (.malformedHex raw)
    else if algorithm = sha256Name ∧ hex.toList.length ≠ 64 then
      .error (.wrongLength raw hex.toList.length)
    else .ok ⟨algorithm, hex⟩

/-- Check that some content has this digest. -/
def verify (digest : Digest) (content : Bytes) : Except Fault Unit :=
  if digest.algorithm ≠ sha256Name then .error (.unverifiable digest.algorithm)
  else
    let actual := ofContent content
    if actual.hex ≠ digest.hex then .error (.mismatch actual digest) else .ok ()

end Digest

end RegistryBench
