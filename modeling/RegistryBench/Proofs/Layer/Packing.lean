import Mathlib.Algebra.GroupWithZero.Nat
import RegistryBench.Layer.Gzip

/-!
# Packing loses nothing

A packed member is read back block by block: each stored block says how long it is, and its kind
says whether another one follows. What is left behind the last block is the trailer of the octets
that were read, so that unpacking accepts it. Main result: `unpack?_pack`.
-/

namespace RegistryBench.Gzip

/-- A number that fits is read back from its octets. -/
theorem ofLittleEndian_littleEndian {width n : Nat} (h : n < 256 ^ width) :
    ofLittleEndian (littleEndian width n) = n := by
  induction width generalizing n with
  | zero => exact (Nat.lt_one_iff.1 h).symm
  | succ width ih =>
    have hrest : n / 256 < 256 ^ width :=
      Nat.div_lt_of_lt_mul (by rwa [Nat.mul_comm, ← Nat.pow_succ])
    rw [littleEndian, ofLittleEndian, ih hrest, UInt8.toNat_ofNat']
    omega

/-- The two octets of a number that fits are read back. -/
theorem ofLittleEndian_pair {n : Nat} (h : n ≤ blockLimit) :
    ofLittleEndian [UInt8.ofNat (n % 256), UInt8.ofNat (n / 256 % 256)] = n := by
  have hfits : n < 256 ^ 2 := Nat.lt_succ_of_le h
  exact ofLittleEndian_littleEndian hfits

/-- A stored block gives its octets. The last one ends the reading and leaves what follows it;
behind another one the reading goes on. -/
theorem readBlocks_block (isLast : Bool) (count : Nat) {octets : Bytes}
    (h : octets.length ≤ blockLimit) (after : Bytes) :
    readBlocks (count + 1) (block isLast octets ++ after) =
      if isLast then some (octets, after)
      else (readBlocks count after).map fun (more, rest) => (octets ++ more, rest) := by
  have hlength := ofLittleEndian_pair h
  have hcomplement := ofLittleEndian_pair (Nat.sub_le blockLimit octets.length)
  -- the complement of the length is right, and there are as many octets as it says
  have hvalid : ¬ (blockLimit - octets.length + octets.length ≠ blockLimit ∨
      (octets ++ after).length < octets.length) := by
    rw [List.length_append]
    omega
  simp only [block, littleEndian, List.cons_append, List.nil_append, readBlocks, hlength,
    hcomplement, if_neg hvalid, List.take_left, List.drop_left]
  cases isLast with
  | true => rfl
  | false => rfl

/-- Stored blocks hold all octets, and something more. -/
theorem length_lt_length_blocks (octets : Bytes) : octets.length < (blocks octets).length := by
  fun_induction blocks octets with
  | case1 octets h =>
    simp [block]
    omega
  | case2 octets h ih =>
    simp only [List.length_drop] at ih
    simp [block]
    omega

/-- The blocks of some octets are read back, with a count of at least that many octets. -/
theorem readBlocks_blocks {count : Nat} {octets : Bytes} (h : octets.length < count)
    (after : Bytes) : readBlocks count (blocks octets ++ after) = some (octets, after) := by
  induction count generalizing octets with
  | zero => exact absurd h (Nat.not_lt_zero _)
  | succ count ih =>
    rw [blocks]
    split
    next hlast => exact readBlocks_block true count hlast after
    next hmore =>
      -- a block takes some octets, so that the count suffices for the others
      have hfirst : (octets.take blockLimit).length ≤ blockLimit := List.length_take_le _ _
      have hrest : (octets.drop blockLimit).length < count := by
        have hpos : 0 < blockLimit := by decide
        rw [List.length_drop]
        omega
      rw [List.append_assoc, readBlocks_block false count hfirst, ih hrest]
      simp

/-- Packed octets are unpacked. -/
theorem unpack?_pack (octets : Bytes) : unpack? (pack octets) = some octets := by
  have hcount : octets.length < (pack octets).length := by
    have hblocks := length_lt_length_blocks octets
    simp only [pack, List.length_append]
    omega
  have hheader : (pack octets).take header.length = header := by
    rw [pack, List.append_assoc, List.take_left]
  have hrest : (pack octets).drop header.length = blocks octets ++ trailer octets := by
    rw [pack, List.append_assoc, List.drop_left]
  rw [unpack?, if_pos hheader, hrest, readBlocks_blocks hcount]
  exact if_pos rfl

end RegistryBench.Gzip
