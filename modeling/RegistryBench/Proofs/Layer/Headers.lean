import Mathlib.Algebra.GroupWithZero.Nat
import RegistryBench.Layer.Tar

/-!
# Headers of archived files

Header fields are octal digits, which give the number back when it fits, and a path field ends with
the first zero octet or when it is full. The checksum of a header is the sum of its octets with the
checksum field blank: it stands between parts that do not depend on it, so that it can be computed
before it is written.

## Main definitions

* `IsHeaderOf`: what the header block of a file says about it.

## Main results

* `octalValue_numberField`: a number is read back from its field.
* `isHeaderOf_header`: a written header says about a file what it should.
-/

namespace RegistryBench.Tar

/-! ### Number fields -/

theorem toNat_octalDigit (n : Nat) : (0x30 + UInt8.ofNat (n % 8)).toNat = 0x30 + n % 8 := by
  rw [UInt8.toNat_add, UInt8.toNat_ofNat']
  show (48 + n % 8 % 256) % 256 = 48 + n % 8
  omega

/-- Octal digits are digits up to seven. -/
theorem isOctal_of_mem_octal {width n : Nat} {d : UInt8} (h : d ∈ octal width n) :
    0x30 ≤ d ∧ d ≤ 0x37 := by
  induction width generalizing n with
  | zero => exact absurd h List.not_mem_nil
  | succ width ih =>
    rw [octal, List.mem_append, List.mem_singleton] at h
    obtain h | rfl := h
    · exact ih h
    · rw [UInt8.le_iff_toNat_le, UInt8.le_iff_toNat_le, toNat_octalDigit]
      show 48 ≤ 48 + n % 8 ∧ 48 + n % 8 ≤ 55
      omega

theorem length_octal (width n : Nat) : (octal width n).length = width := by
  induction width generalizing n with
  | zero => rfl
  | succ width ih => rw [octal, List.length_append, ih, List.length_singleton]

theorem length_numberField {width : Nat} (h : 0 < width) (n : Nat) :
    (numberField width n).length = width := by
  rw [numberField, List.length_append, length_octal, List.length_singleton, Nat.sub_add_cancel h]

theorem foldl_octal {width n : Nat} (h : n < 8 ^ width) :
    (octal width n).foldl (fun n d => n * 8 + (d.toNat - 0x30)) 0 = n := by
  induction width generalizing n with
  | zero => exact (Nat.lt_one_iff.1 h).symm
  | succ width ih =>
    have hrest : n / 8 < 8 ^ width :=
      Nat.div_lt_of_lt_mul (by rwa [Nat.mul_comm, ← Nat.pow_succ])
    rw [octal, List.foldl_append, ih hrest, List.foldl_cons, List.foldl_nil, toNat_octalDigit]
    omega

/-- A number that fits is read back from its field. -/
theorem octalValue_numberField {width n : Nat} (h : n < 8 ^ (width - 1)) :
    octalValue (numberField width n) = n := by
  have hdigits : (numberField width n).takeWhile (fun d => 0x30 ≤ d ∧ d ≤ 0x37) =
      octal (width - 1) n := by
    -- all digits are taken, and the zero octet behind them is none
    rw [numberField, List.takeWhile_append_of_pos fun d hd =>
      decide_eq_true (isOctal_of_mem_octal hd)]
    exact List.append_nil _
  rw [octalValue, hdigits, foldl_octal h]

/-! ### Header blocks -/

@[simp]
theorem length_zeros (n : Nat) : (zeros n).length = n :=
  List.length_replicate

theorem length_padTo {length : Nat} {octets : Bytes} (h : octets.length ≤ length) :
    (padTo length octets).length = length := by
  rw [padTo, List.length_append, length_zeros, Nat.add_sub_cancel' h]

/-- Octets are cut out from behind others. -/
theorem slice_of_begins {start length : Nat} {block : Bytes} (before octets : Bytes)
    (h : before ++ octets <+: block) (hstart : before.length = start)
    (hlength : octets.length = length) : slice start length block = octets := by
  obtain ⟨after, rfl⟩ := h
  rw [slice, List.append_assoc, List.drop_left' hstart, List.take_left' hlength]

/-- Every octet adds 255 at most. -/
theorem octetSum_le (octets : Bytes) : octetSum octets ≤ 255 * octets.length := by
  induction octets with
  | nil => exact Nat.le_refl 0
  | cons octet octets ih =>
    have hoctet := octet.toNat_lt
    show octet.toNat + octetSum octets ≤ 255 * (octets.length + 1)
    omega

/-- What stands in a header in front of its checksum. -/
def beforeChecksum (path : Bytes) (size : Nat) : Bytes :=
  padTo pathSize path ++ numberField 8 mode ++ zeros 16 ++ numberField 12 size ++ numberField 12 0

/-- What stands in a header behind its checksum. -/
def afterChecksum : Bytes :=
  zeros 101 ++ magic ++ zeros 247

theorem length_beforeChecksum {path : Bytes} (h : path.length ≤ pathSize) (size : Nat) :
    (beforeChecksum path size).length = 148 := by
  have hpath : (padTo pathSize path).length = 100 := length_padTo h
  simp [beforeChecksum, hpath, length_numberField]

theorem length_afterChecksum : afterChecksum.length = 356 := by
  simp [afterChecksum, magic]

/-- The checksum field stands between parts that do not depend on it. -/
theorem headerWith_eq {checksum path : Bytes} (hchecksum : checksum.length = 8)
    (hpath : path.length ≤ pathSize) (size : Nat) :
    headerWith checksum path size = beforeChecksum path size ++ checksum ++ afterChecksum := by
  -- the header is filled up behind the magic, so that its end depends on lengths only
  have hlength : (beforeChecksum path size ++ checksum ++ zeros 101 ++ magic).length = 265 := by
    simp [length_beforeChecksum hpath, hchecksum, magic]
  show padTo blockSize (beforeChecksum path size ++ checksum ++ zeros 101 ++ magic) = _
  rw [padTo, hlength]
  simp [afterChecksum, blockSize]

section

variable {checksum path : Bytes} (hchecksum : checksum.length = 8) (hpath : path.length ≤ pathSize)
  (size : Nat)

include hchecksum hpath

theorem length_headerWith : (headerWith checksum path size).length = blockSize := by
  rw [headerWith_eq hchecksum hpath, List.length_append, List.length_append,
    length_beforeChecksum hpath, hchecksum, length_afterChecksum]
  rfl

theorem headerWith_begins : beforeChecksum path size <+: headerWith checksum path size := by
  rw [headerWith_eq hchecksum hpath, List.append_assoc]
  exact List.prefix_append _ _

theorem path_headerWith :
    slice 0 pathSize (headerWith checksum path size) = padTo pathSize path := by
  refine slice_of_begins [] _ (.trans ?_ (headerWith_begins hchecksum hpath size)) rfl
    (length_padTo hpath)
  simp [beforeChecksum]

theorem mode_headerWith : slice 100 8 (headerWith checksum path size) = numberField 8 mode := by
  refine slice_of_begins (padTo pathSize path) _
    (.trans ?_ (headerWith_begins hchecksum hpath size)) (length_padTo hpath)
    (length_numberField (by decide) mode)
  simp [beforeChecksum]

theorem size_headerWith : slice 124 12 (headerWith checksum path size) = numberField 12 size := by
  refine slice_of_begins (padTo pathSize path ++ numberField 8 mode ++ zeros 16) _
    (.trans ?_ (headerWith_begins hchecksum hpath size)) ?_
    (length_numberField (by decide) size)
  · simp [beforeChecksum]
  · rw [List.length_append, List.length_append, length_padTo hpath,
      length_numberField (by decide), length_zeros]
    rfl

theorem checksum_headerWith : slice 148 8 (headerWith checksum path size) = checksum := by
  refine slice_of_begins _ _ ?_ (length_beforeChecksum hpath size) hchecksum
  rw [headerWith_eq hchecksum hpath]
  exact List.prefix_append _ _

/-- With its checksum field blank, a header is the one that the checksum is computed of. -/
theorem blank_headerWith :
    (headerWith checksum path size).take 148 ++ blankChecksum ++
      (headerWith checksum path size).drop 156 = headerWith blankChecksum path size := by
  have hbefore := length_beforeChecksum hpath size
  have hboth : (beforeChecksum path size ++ checksum).length = 156 := by
    rw [List.length_append, hbefore, hchecksum]
  have hblank : blankChecksum.length = 8 := rfl
  rw [headerWith_eq hblank hpath, headerWith_eq hchecksum hpath, List.drop_left' hboth,
    List.append_assoc _ checksum, List.take_left' hbefore]

end

/-- A block is the header of a file. -/
structure IsHeaderOf (block : Bytes) (file : File) : Prop where
  /-- It is a whole block. -/
  length_block : block.length = blockSize
  /-- Its path field, up to the first zero octet, is the path of the file. -/
  path_eq : (slice 0 pathSize block).takeWhile (· ≠ 0) = file.path
  /-- Its mode field is the mode of the file. -/
  mode_eq : octalValue (slice 100 8 block) = file.mode
  /-- Its size field says how long the content of the file is. -/
  size_eq : octalValue (slice 124 12 block) = file.content.length
  /-- Its checksum field is the sum of its octets with that field blank. -/
  checksum_eq : octalValue (slice 148 8 block) =
    octetSum (block.take 148 ++ blankChecksum ++ block.drop 156)

/-- The path is read back from its field, whether or not it fills the field. -/
theorem takeWhile_padTo {path : Bytes} (h : 0 ∉ path) (length : Nat) :
    (padTo length path).takeWhile (· ≠ 0) = path := by
  have hpos : ∀ octet ∈ path, decide (octet ≠ 0) = true := fun octet hoctet =>
    decide_eq_true fun heq => h (heq ▸ hoctet)
  -- what follows the path are zeros, or nothing at all
  rw [padTo, List.takeWhile_append_of_pos hpos, zeros, List.takeWhile_replicate]
  exact List.append_nil path

/-- The checksum of a header fits into its field. -/
theorem octetSum_lt {block : Bytes} (h : block.length = blockSize) :
    octetSum block < 8 ^ (8 - 1) := by
  have hsum := octetSum_le block
  rw [h] at hsum
  exact Nat.lt_of_le_of_lt hsum (by decide)

/-- A written header is the header of its file. -/
theorem isHeaderOf_header {path content : Bytes} (hpath : path.length ≤ pathSize)
    (hzero : 0 ∉ path) (hcontent : content.length < 8 ^ 11) :
    IsHeaderOf (header path content.length) ⟨path, mode, content⟩ := by
  have hchecksum : (numberField 8 (octetSum (headerWith blankChecksum path content.length))).length
      = 8 := length_numberField (by decide) _
  -- the checksum is that of the blank header, which is a block too
  have hblank : blankChecksum.length = 8 := rfl
  have hsum := octetSum_lt (length_headerWith hblank hpath content.length)
  exact {
    length_block := length_headerWith hchecksum hpath _
    path_eq := by rw [header, path_headerWith hchecksum hpath, takeWhile_padTo hzero]
    mode_eq := by
      rw [header, mode_headerWith hchecksum hpath]
      exact octalValue_numberField (by decide)
    size_eq := by
      rw [header, size_headerWith hchecksum hpath]
      exact octalValue_numberField hcontent
    checksum_eq := by
      rw [header, checksum_headerWith hchecksum hpath, blank_headerWith hchecksum hpath]
      exact octalValue_numberField hsum }

/-- The check of a header is the one of its checksum. -/
theorem IsHeaderOf.isHeader {block : Bytes} {file : File} (h : IsHeaderOf block file) :
    isHeader block = true :=
  beq_iff_eq.2 h.checksum_eq

/-- A zero block is no header, since blanks stand in the sum for the checksum. -/
theorem isHeader_zeros : Tar.isHeader (zeros blockSize) = false := by
  decide +kernel

theorem IsHeaderOf.ne_zeros {block : Bytes} {file : File} (h : IsHeaderOf block file) :
    block ≠ zeros blockSize := by
  intro heq
  have hheader := h.isHeader
  rw [heq, isHeader_zeros] at hheader
  contradiction

end RegistryBench.Tar
