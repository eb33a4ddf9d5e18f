import Mathlib.Data.List.Forall2
import RegistryBench.Layer
import RegistryBench.Proofs.Layer.Headers
import RegistryBench.Proofs.Layer.Packing

/-!
# Archives are read back

An archive is written as blocks, and its reader has to find its place again after every file: a
header says how long the content is, and zeros fill up the last block of the content, none when it
ends with the block. Writer and reader meet in what an archive is (`Tar.IsArchive`).

## Main definitions

* `Tar.IsArchive`: octets that are read in sequence as some files, with nothing left over.

## Main results

* `Tar.IsArchive.read?_eq`: an archive is read as its files, so that it is one of these only.
* `Tar.isArchive_of_stores`: what is written for some files is an archive of them.
* `Layer.archive_reads_back`: the packed archive of some files, unpacked and read.
-/

namespace RegistryBench

namespace Tar

/-! ### Archives -/

/-- Octets are an archive of some files: for each file its header block, its content and zeros up to
the end of the block, and behind the last one two zero blocks. -/
inductive IsArchive : Bytes → List File → Prop
  /-- Two zero blocks end the archive. -/
  | done : IsArchive (zeros (2 * blockSize)) []
  /-- A file stands in front of the others. -/
  | file {block rest : Bytes} {file : File} {files : List File} (hblock : IsHeaderOf block file)
      (hrest : IsArchive rest files) :
      IsArchive (block ++ (file.content ++ (zeros (fill file.content.length) ++ rest)))
        (file :: files)

/-- A content and what fills it up are whole blocks. -/
theorem add_fill (size : Nat) : size + fill size = blockSize * ((size + 511) / 512) := by
  simp only [fill, blockSize]
  omega

/-- How long an archive is. -/
theorem IsArchive.length_eq {octets : Bytes} {files : List File} (h : IsArchive octets files) :
    octets.length =
      blockSize * (2 + (files.map fun file => 1 + (file.content.length + 511) / 512).sum) := by
  induction h with
  | done => simp [Nat.mul_comm]
  | @file block rest file files hblock _ ih =>
    have hfill := add_fill file.content.length
    simp only [List.length_append, hblock.length_block, length_zeros, ih, List.map_cons,
      List.sum_cons]
    -- one block for the header, and those of the content
    rw [← Nat.add_assoc file.content.length, hfill]
    simp only [Nat.mul_add, Nat.mul_one]
    omega

/-- An archive ends in two zero blocks. -/
theorem IsArchive.zeros_suffix {octets : Bytes} {files : List File} (h : IsArchive octets files) :
    zeros (2 * blockSize) <:+ octets := by
  induction h with
  | done => exact List.suffix_refl _
  | file _ _ ih =>
    exact ih.trans ((List.suffix_append _ _).trans
      ((List.suffix_append _ _).trans (List.suffix_append _ _)))

/-- Reading an archive gives its files, when as many may be read. -/
theorem IsArchive.readFiles_eq {octets : Bytes} {files : List File} (h : IsArchive octets files)
    {count : Nat} (hcount : files.length < count) : readFiles count octets = some files := by
  induction h generalizing count with
  | done =>
    obtain ⟨count, rfl⟩ := Nat.exists_eq_succ_of_ne_zero (Nat.ne_zero_of_lt hcount)
    have hblock : (zeros (2 * blockSize)).take blockSize = zeros blockSize :=
      List.take_replicate
    -- the first of the two zero blocks ends the reading
    rw [readFiles]
    exact if_pos hblock
  | @file block rest file files hblock _ ih =>
    obtain ⟨count, rfl⟩ := Nat.exists_eq_succ_of_ne_zero (Nat.ne_zero_of_lt hcount)
    have hlength := hblock.length_block
    -- behind the header there is the whole content, and behind what fills it up the other files
    have henough : ¬ (file.content ++ (zeros (fill file.content.length) ++ rest)).length <
        file.content.length := by
      rw [List.length_append]
      omega
    have hrest : (file.content ++ (zeros (fill file.content.length) ++ rest)).drop
        (file.content.length + fill file.content.length) = rest := by
      rw [← List.append_assoc]
      exact List.drop_left' (by rw [List.length_append, length_zeros])
    simp only [readFiles, List.take_left' hlength, List.drop_left' hlength, if_neg hblock.ne_zeros,
      if_pos hblock.isHeader, hblock.size_eq, if_neg henough, List.take_left, hrest,
      ih (Nat.lt_of_succ_lt_succ hcount), Option.map_some, hblock.path_eq, hblock.mode_eq]

/-- Each file takes a block at least. -/
theorem IsArchive.length_le {octets : Bytes} {files : List File} (h : IsArchive octets files) :
    files.length * blockSize ≤ octets.length := by
  induction h with
  | done => simp
  | file hblock _ ih =>
    simp only [List.length_cons, List.length_append, hblock.length_block, Nat.succ_mul]
    omega

/-- An archive is read as its files. -/
theorem IsArchive.read?_eq {octets : Bytes} {files : List File} (h : IsArchive octets files) :
    read? octets = some files :=
  h.readFiles_eq (Nat.lt_succ_of_le ((Nat.le_div_iff_mul_le (by decide)).2 h.length_le))

/-! ### Written archives -/

/-- What is stored of a path and a content. -/
structure Stores (file : String × Bytes) (stored : File) : Prop where
  /-- The path in the form in which it is stored. -/
  path_eq : storedPath file.1 = .ok stored.path
  /-- The mode of every file. -/
  mode_eq : stored.mode = mode
  /-- The content itself. -/
  content_eq : stored.content = file.2

/-- A path that is stored fits into its field, which it does not end early. -/
theorem fits_of_storedPath {path : String} {octets : Bytes} (h : storedPath path = .ok octets) :
    octets.length ≤ pathSize ∧ 0 ∉ octets := by
  rw [storedPath] at h
  cases hnormal : normalPath path with
  | error fault =>
    rw [hnormal] at h
    contradiction
  | ok text =>
    rw [hnormal] at h
    -- both refusals must be passed: a zero octet first, then the length
    change (if 0 ∈ Text.utf8 text then Except.error PathFault.zeroOctet
      else if pathSize < (Text.utf8 text).length then .error .long
      else .ok (Text.utf8 text)) = .ok octets at h
    split at h
    next => contradiction
    next hzero =>
      split at h
      next => contradiction
      next hlong =>
        obtain rfl := Except.ok.inj h
        exact ⟨Nat.le_of_not_lt hlong, hzero⟩

/-- The header of a stored file is the header of that file. -/
theorem Stores.isHeaderOf {file : String × Bytes} {stored : File} (h : Stores file stored)
    (hcontent : file.2.length < 8 ^ 11) :
    IsHeaderOf (header stored.path stored.content.length) stored := by
  obtain ⟨path, _, content⟩ := stored
  obtain ⟨hpath, rfl, rfl⟩ := h
  obtain ⟨hlength, hzero⟩ := fits_of_storedPath hpath
  exact isHeaderOf_header hlength hzero hcontent

/-- The blocks of stored files and two zero blocks are an archive of these files. -/
theorem isArchive_of_stores {files : List (String × Bytes)} {stored : List File}
    (h : List.Forall₂ Stores files stored) (hcontent : ∀ file ∈ files, file.2.length < 8 ^ 11) :
    IsArchive (stored.flatMap (fun file => fileBlocks file.path file.content) ++
      zeros (2 * blockSize)) stored := by
  induction h with
  | nil => exact .done
  | @cons file stored files storedFiles hfile _ ih =>
    obtain ⟨hfirst, hrest⟩ := List.forall_mem_cons.1 hcontent
    have harchive := IsArchive.file (hfile.isHeaderOf hfirst) (ih hrest)
    simpa [fileBlocks] using harchive

/-- The stored files have the contents that were given. -/
theorem map_content_of_stores {β : Type} (f : Bytes → β) {files : List (String × Bytes)}
    {stored : List File} (h : List.Forall₂ Stores files stored) :
    stored.map (fun file => f file.content) = files.map fun file => f file.2 := by
  induction h with
  | nil => rfl
  | cons hfile _ ih => rw [List.map_cons, List.map_cons, hfile.content_eq, ih]

/-- The path of a file as it is stored, with the content. -/
def place (file : String × Bytes) : Except PathFault (Bytes × Bytes) :=
  return (← storedPath file.1, file.2)

theorem place_of_ok {file : String × Bytes} {octets : Bytes} (h : storedPath file.1 = .ok octets) :
    place file = .ok (octets, file.2) := by
  rw [place, h]
  rfl

theorem place_of_error {file : String × Bytes} {fault : PathFault}
    (h : storedPath file.1 = .error fault) : place file = .error fault := by
  rw [place, h]
  rfl

/-- First all paths are brought into the form in which they are stored, then the blocks follow. -/
theorem write_eq (files : List (String × Bytes)) :
    write files = (files.mapM place).map fun placed =>
      placed.flatMap (fun (path, content) => fileBlocks path content) ++ zeros (2 * blockSize) := by
  show (files.mapM place >>= _) = _
  cases files.mapM place with
  | error fault => rfl
  | ok placed => rfl

/-- When all paths can be stored, the archive is written with all files. -/
theorem write_eq_ok {files : List (String × Bytes)}
    (h : ∀ file ∈ files, ∃ octets, storedPath file.1 = .ok octets) :
    ∃ stored, List.Forall₂ Stores files stored ∧ write files =
      .ok (stored.flatMap (fun file => fileBlocks file.path file.content) ++
        zeros (2 * blockSize)) := by
  suffices hplaced : ∃ stored, List.Forall₂ Stores files stored ∧
      files.mapM place = .ok (stored.map fun file => (file.path, file.content)) by
    obtain ⟨stored, hstores, hmap⟩ := hplaced
    refine ⟨stored, hstores, ?_⟩
    rw [write_eq, hmap, Except.map, List.flatMap_map]
  -- the files are stored one after the other
  induction files with
  | nil => exact ⟨[], .nil, rfl⟩
  | cons file files ih =>
    obtain ⟨⟨octets, hoctets⟩, hfiles⟩ := List.forall_mem_cons.1 h
    obtain ⟨stored, hstores, hmap⟩ := ih hfiles
    refine ⟨⟨octets, mode, file.2⟩ :: stored, .cons ⟨hoctets, rfl, rfl⟩ hstores, ?_⟩
    rw [List.mapM_cons, place_of_ok hoctets, hmap]
    rfl

/-- When a path cannot be stored, nothing is written. -/
theorem write_eq_error {files : List (String × Bytes)} {file : String × Bytes} {fault : PathFault}
    (hmem : file ∈ files) (h : storedPath file.1 = .error fault) :
    ∃ fault, write files = .error fault := by
  suffices hplaced : ∃ fault, files.mapM place = .error fault by
    obtain ⟨fault, hmap⟩ := hplaced
    refine ⟨fault, ?_⟩
    rw [write_eq, hmap, Except.map]
  induction files with
  | nil => exact absurd hmem List.not_mem_nil
  | cons first files ih =>
    rw [List.mapM_cons]
    cases hfirst : place first with
    | error fault => exact ⟨fault, rfl⟩
    | ok placed =>
      -- the first path can be stored, so that it is another one that cannot
      obtain rfl | hrest := List.mem_cons.1 hmem
      · rw [place_of_error h] at hfirst
        contradiction
      · obtain ⟨fault, hmap⟩ := ih hrest
        refine ⟨fault, ?_⟩
        rw [hmap]
        rfl

end Tar

namespace Layer

/-- When every path can be stored and every content is shorter than `8 ^ 11` octets, the archive
of some files is made and can be unpacked. It consists of blocks, one for each header and as many as
each content takes, and ends in two zero blocks. Read in sequence, it is an archive of just these
files, with the paths in the form in which they are stored. When a path cannot be stored, no archive
is made. -/
theorem archive_reads_back (files : List (String × Bytes)) :
    ((∀ file ∈ files, ∃ octets, Tar.storedPath file.1 = .ok octets) →
        (∀ file ∈ files, file.2.length < 8 ^ 11) →
        ∃ packed octets stored, archive files = .ok packed ∧ Gzip.unpack? packed = some octets ∧
          octets.length = 512 * (2 + (files.map fun file => 1 + (file.2.length + 511) / 512).sum) ∧
          512 ∣ octets.length ∧ List.replicate (2 * 512) 0 <:+ octets ∧
          List.Forall₂ Tar.Stores files stored ∧
          (∀ read, Tar.IsArchive octets read ↔ read = stored) ∧ Tar.read? octets = some stored) ∧
      ∀ file ∈ files, ∀ fault, Tar.storedPath file.1 = .error fault →
        ∃ cause, archive files = .error (.io cause) := by
  constructor
  · intro hpaths hcontents
    obtain ⟨stored, hstores, hwrite⟩ := Tar.write_eq_ok hpaths
    have harchive := Tar.isArchive_of_stores hstores hcontents
    -- from here on it matters only that these octets are an archive
    generalize stored.flatMap (fun file => Tar.fileBlocks file.path file.content) ++
      Tar.zeros (2 * Tar.blockSize) = octets at hwrite harchive
    have hpacked : archive files = .ok (Gzip.pack octets) := by
      rw [archive, hwrite]
      rfl
    have hlength := harchive.length_eq
    rw [Tar.map_content_of_stores (fun content => 1 + (content.length + 511) / 512) hstores]
      at hlength
    have hread := harchive.read?_eq
    refine ⟨Gzip.pack octets, octets, stored, hpacked, Gzip.unpack?_pack octets, hlength,
      ⟨_, hlength⟩, harchive.zeros_suffix, hstores, fun read => ?_, hread⟩
    constructor
    · -- octets are read in one way only, so that they are an archive of no other files
      intro h
      exact Option.some.inj (h.read?_eq.symm.trans hread)
    · rintro rfl
      exact harchive
  · intro file hmem fault hfault
    obtain ⟨cause, hwrite⟩ := Tar.write_eq_error hmem hfault
    refine ⟨cause, ?_⟩
    rw [archive, hwrite]
    rfl

/-- A content of one whole block needs no zeros behind it, and one of no octets has a header
only. A path that leaves its directory is refused. -/
theorem archive_reads_back_wholeBlock :
    (∃ packed octets, archive [("./docs//a", List.replicate 512 7), ("b/", [])] = .ok packed ∧
        Gzip.unpack? packed = some octets ∧ octets.length = 512 * 5 ∧
        (Tar.read? octets).map (List.map fun file => (file.path, file.content)) =
          some [(Text.utf8 "docs/a", List.replicate 512 7), (Text.utf8 "b/", [])]) ∧
      ∃ cause, archive [("a", []), ("../b", [])] = .error (.io cause) := by
  have hdocs : Tar.storedPath "./docs//a" = .ok (Text.utf8 "docs/a") := by decide +kernel
  have hb : Tar.storedPath "b/" = .ok (Text.utf8 "b/") := by decide +kernel
  constructor
  · obtain ⟨packed, octets, stored, hpacked, hoctets, hlength, -, -, hstores, -, hread⟩ :=
      (archive_reads_back [("./docs//a", List.replicate 512 7), ("b/", [])]).1
        (List.forall_mem_cons.2 ⟨⟨_, hdocs⟩, List.forall_mem_singleton.2 ⟨_, hb⟩⟩)
        (List.forall_mem_cons.2 ⟨by rw [List.length_replicate]; decide,
          List.forall_mem_singleton.2 (by decide)⟩)
    simp only [List.map_cons, List.map_nil, List.length_replicate] at hlength
    refine ⟨packed, octets, hpacked, hoctets, hlength, ?_⟩
    obtain _ | ⟨hfirst, _ | ⟨hsecond, ⟨⟩⟩⟩ := hstores
    rw [hread, Option.map_some, List.map_cons, List.map_cons, List.map_nil, hfirst.content_eq,
      hsecond.content_eq, Except.ok.inj (hfirst.path_eq.symm.trans hdocs),
      Except.ok.inj (hsecond.path_eq.symm.trans hb)]
  · exact (archive_reads_back [("a", []), ("../b", [])]).2 _
      (List.mem_cons_of_mem _ List.mem_cons_self) .climbing (by decide +kernel)

end Layer

end RegistryBench
