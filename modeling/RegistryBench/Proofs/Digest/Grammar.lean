import RegistryBench.Digest

/-!
# The grammar of digests

A text is read as a digest exactly when it is the written form of a well-formed digest
(`parse_eq_ok_iff`). The digest of some content is well formed, and a digest accepts the content
that it is the digest of (`verify_eq_ok_iff`). Main result: `parse_verify_exact`, which puts this
together with the grammar, character by character (`IsWritten`).
-/

namespace RegistryBench

namespace Text

/-- Hexadecimal digits are the decimal ones and the first six letters, in lower case. -/
theorem isLowerHex_iff (c : Char) :
    isLowerHex c = true ↔ ('0' ≤ c ∧ c ≤ '9') ∨ ('a' ≤ c ∧ c ≤ 'f') := by
  simp [isLowerHex, Char.isDigit, Char.le_def]

theorem isLowerHex_digitChar : ∀ d : Fin 16, isLowerHex (Nat.digitChar d.val) = true := by
  decide

/-- An octet is written with lower-case hexadecimal digits. -/
theorem isLowerHex_of_mem_hexPair {octet : UInt8} {c : Char} (h : c ∈ hexPair octet) :
    isLowerHex c = true := by
  have hoctet := octet.toNat_lt
  rw [hexPair, List.mem_cons, List.mem_singleton] at h
  obtain rfl | rfl := h
  · exact isLowerHex_digitChar ⟨octet.toNat / 16, by omega⟩
  · exact isLowerHex_digitChar ⟨octet.toNat % 16, by omega⟩

/-- Octets are written in lower-case hexadecimal digits. -/
theorem isLowerHex_of_mem_hex {octets : Bytes} {c : Char} (h : c ∈ (hex octets).toList) :
    isLowerHex c = true := by
  rw [hex, String.toList_ofList, List.mem_flatMap] at h
  obtain ⟨octet, -, hc⟩ := h
  exact isLowerHex_of_mem_hexPair hc

/-- Octets are written with two digits each. -/
theorem length_hex (octets : Bytes) : (hex octets).toList.length = 2 * octets.length := by
  rw [hex, String.toList_ofList]
  induction octets with
  | nil => rfl
  | cons octet octets ih =>
    rw [List.flatMap_cons, List.length_append, ih, List.length_cons]
    show 2 + 2 * octets.length = _
    omega

end Text

namespace Digest

/-- The characters of an algorithm are lower-case letters, digits and four signs. -/
theorem isAlgorithmChar_iff (c : Char) :
    isAlgorithmChar c = true ↔
      ('a' ≤ c ∧ c ≤ 'z') ∨ ('0' ≤ c ∧ c ≤ '9') ∨ c ∈ ['+', '.', '_', '-'] := by
  simp [isAlgorithmChar, Char.isDigit, Char.le_def, or_assoc]

/-- What reading a digest checks: an algorithm and a hash, neither of them empty, of the characters
that each may have, and as many digits as SHA-256 gives. -/
structure WellFormed (digest : Digest) : Prop where
  /-- There is an algorithm. -/
  algorithm_ne : digest.algorithm ≠ ""
  /-- The algorithm has no character that no algorithm has. -/
  algorithm_chars : ∀ c ∈ digest.algorithm.toList, isAlgorithmChar c = true
  /-- There is a hash. -/
  hex_ne : digest.hex ≠ ""
  /-- The hash is in lower-case hexadecimal. -/
  hex_chars : ∀ c ∈ digest.hex.toList, Text.isLowerHex c = true
  /-- A SHA-256 hash has sixty-four digits. -/
  length_hex : digest.algorithm = sha256Name → digest.hex.toList.length = 64

/-- The algorithm ends where the written form has its first colon. -/
theorem WellFormed.cut?_toText {digest : Digest} (h : digest.WellFormed) :
    Text.cut? ':' digest.toText = some (digest.algorithm, digest.hex) := by
  rw [Text.cut?_eq_some_iff]
  refine ⟨by simp [toText], fun hcolon => ?_⟩
  exact absurd (h.algorithm_chars _ hcolon) (by decide)

/-- A text is read as a digest when it is the written form of a well-formed one. -/
theorem parse_eq_ok_iff {raw : String} {digest : Digest} :
    parse raw = .ok digest ↔ digest.toText = raw ∧ digest.WellFormed := by
  constructor
  · intro h
    rw [parse] at h
    split at h
    next => contradiction
    next algorithm hex hcut =>
      split at h
      next => contradiction
      next halgorithm =>
        split at h
        next => contradiction
        next hhex =>
          split at h
          next => contradiction
          next hlength =>
            -- what the four tests have let through
            rw [not_or, Classical.not_not, List.all_eq_true] at halgorithm hhex
            obtain rfl := Except.ok.inj h
            refine ⟨?_, ?_⟩
            · rw [toText, ← String.toList_inj, (Text.cut?_eq_some_iff.1 hcut).1]
              simp
            · exact {
                algorithm_ne := mt String.toList_eq_nil_iff.2 halgorithm.1
                algorithm_chars := halgorithm.2
                hex_ne := mt String.toList_eq_nil_iff.2 hhex.1
                hex_chars := hhex.2
                length_hex := fun hname => Classical.not_not.1 fun hne => hlength ⟨hname, hne⟩ }
  · rintro ⟨rfl, h⟩
    have halgorithm : ¬ (digest.algorithm.toList = [] ∨
        ¬ digest.algorithm.toList.all isAlgorithmChar) := by
      rw [not_or, Classical.not_not, List.all_eq_true]
      exact ⟨mt String.toList_eq_nil_iff.1 h.algorithm_ne, h.algorithm_chars⟩
    have hhex : ¬ (digest.hex.toList = [] ∨ ¬ digest.hex.toList.all Text.isLowerHex) := by
      rw [not_or, Classical.not_not, List.all_eq_true]
      exact ⟨mt String.toList_eq_nil_iff.1 h.hex_ne, h.hex_chars⟩
    have hlength : ¬ (digest.algorithm = sha256Name ∧ digest.hex.toList.length ≠ 64) :=
      fun ⟨hname, hne⟩ => hne (h.length_hex hname)
    simp only [parse, h.cut?_toText, if_neg halgorithm, if_neg hhex, if_neg hlength]

/-! ### Digests of content -/

/-- The digest of some content has sixty-four digits. -/
theorem length_hex_ofContent (content : Bytes) : (ofContent content).hex.toList.length = 64 := by
  rw [ofContent, Text.length_hex, Sha256.length_hash]

/-- The digest of a content is a well-formed one. -/
theorem wellFormed_ofContent (content : Bytes) : (ofContent content).WellFormed where
  algorithm_ne := show sha256Name ≠ "" by decide
  algorithm_chars :=
    List.all_eq_true.1 (show sha256Name.toList.all isAlgorithmChar = true by decide)
  hex_ne h := by
    have hlength := length_hex_ofContent content
    rw [h] at hlength
    contradiction
  hex_chars _ := Text.isLowerHex_of_mem_hex
  length_hex _ := length_hex_ofContent content

/-- The digest of some content is read back from its written form. -/
theorem parse_toText_ofContent (content : Bytes) :
    parse (ofContent content).toText = .ok (ofContent content) :=
  parse_eq_ok_iff.2 ⟨rfl, wellFormed_ofContent content⟩

/-- A digest accepts the content that it is the digest of, and no other. -/
theorem verify_eq_ok_iff {digest : Digest} {content : Bytes} :
    digest.verify content = .ok () ↔ digest = ofContent content := by
  simp only [verify]
  split
  next hname =>
    refine iff_of_false (by simp) fun heq => hname ?_
    rw [heq]
    rfl
  next hname =>
    split
    next hhex =>
      refine iff_of_false (by simp) fun heq => hhex ?_
      rw [heq]
    next hhex =>
      -- both parts of the digest are those of the content
      refine iff_of_true rfl ?_
      obtain ⟨algorithm, hex⟩ := digest
      rw [Classical.not_not] at hname hhex
      subst hname hhex
      rfl

/-! ### The grammar -/

/-- The grammar of written digests: an algorithm and a hash around a colon, neither of them empty,
in which only some characters may stand. -/
structure IsWritten (raw algorithm hex : String) : Prop where
  /-- The two parts stand around a colon. -/
  raw_eq : raw = algorithm ++ ":" ++ hex
  /-- There is an algorithm. -/
  algorithm_ne : algorithm ≠ ""
  /-- The algorithm has lower-case letters, digits and four signs. -/
  algorithm_chars : ∀ c ∈ algorithm.toList,
    ('a' ≤ c ∧ c ≤ 'z') ∨ ('0' ≤ c ∧ c ≤ '9') ∨ c ∈ ['+', '.', '_', '-']
  /-- There is a hash. -/
  hex_ne : hex ≠ ""
  /-- The hash has digits and the letters up to `f`. -/
  hex_chars : ∀ c ∈ hex.toList, ('0' ≤ c ∧ c ≤ '9') ∨ ('a' ≤ c ∧ c ≤ 'f')
  /-- A SHA-256 hash has sixty-four digits. -/
  length_hex : algorithm = "sha256" → hex.toList.length = 64

/-- The grammar gives the written forms of well-formed digests. -/
theorem isWritten_iff {raw : String} {digest : Digest} :
    IsWritten raw digest.algorithm digest.hex ↔ digest.toText = raw ∧ digest.WellFormed := by
  constructor
  · intro h
    exact ⟨h.raw_eq.symm, {
      algorithm_ne := h.algorithm_ne
      algorithm_chars := fun c hc => (isAlgorithmChar_iff c).2 (h.algorithm_chars c hc)
      hex_ne := h.hex_ne
      hex_chars := fun c hc => (Text.isLowerHex_iff c).2 (h.hex_chars c hc)
      length_hex := h.length_hex }⟩
  · rintro ⟨hraw, h⟩
    exact {
      raw_eq := hraw.symm
      algorithm_ne := h.algorithm_ne
      algorithm_chars := fun c hc => (isAlgorithmChar_iff c).1 (h.algorithm_chars c hc)
      hex_ne := h.hex_ne
      hex_chars := fun c hc => (Text.isLowerHex_iff c).1 (h.hex_chars c hc)
      length_hex := h.length_hex }

/-- Exactly the texts of the grammar are read, as the two parts they have, and the digest that was
read is written as the same text. It accepts just the content that it is the digest of. The digest
of any content is read back. -/
theorem parse_verify_exact (raw : String) (content : Bytes) :
    (∀ algorithm hex, parse raw = .ok ⟨algorithm, hex⟩ ↔ IsWritten raw algorithm hex) ∧
      (∀ digest, parse raw = .ok digest →
        digest.toText = raw ∧ (digest.verify content = .ok () ↔ digest = ofContent content)) ∧
      parse (ofContent content).toText = .ok (ofContent content) := by
  refine ⟨fun algorithm hex => ?_, fun digest hparse => ?_, parse_toText_ofContent content⟩
  · rw [parse_eq_ok_iff]
    exact isWritten_iff.symm
  · exact ⟨(parse_eq_ok_iff.1 hparse).1, verify_eq_ok_iff⟩

/-- The digest of no octets is read. It accepts no octets, and does not accept one. -/
theorem parse_verify_exact_empty :
    let raw := "sha256:e3b0c44298fc1c149afbf4c8996fb92427ae41e4649b934ca495991b7852b855"
    ∃ digest, parse raw = .ok digest ∧ digest.toText = raw ∧ digest.verify [] = .ok () ∧
      digest.verify [0] ≠ .ok () := by
  intro raw
  have hraw : (ofContent []).toText = raw := by decide +kernel
  have hother : ofContent [0] ≠ ofContent [] := by decide +kernel
  have hparse : parse raw = .ok (ofContent []) := hraw ▸ (parse_verify_exact raw []).2.2
  obtain ⟨htext, hempty⟩ := (parse_verify_exact raw []).2.1 _ hparse
  obtain ⟨-, hzero⟩ := (parse_verify_exact raw [0]).2.1 _ hparse
  exact ⟨_, hparse, htext, hempty.2 rfl, fun h => hother (hzero.1 h).symm⟩

end Digest

end RegistryBench
