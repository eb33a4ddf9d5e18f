import RegistryBench.Json.Token

/-!
# Tokens are read back

The octets of a token are read as that token. A numeral alone needs care: it would go on with a
digit, a point or the letter of an exponent, so what follows must begin with none of these. From
this, octets that spell tokens, with blanks between them or without, are divided into just those.

## Main results

- `Token.readNumeral?_writeNumeral`: every numeral is read back, whatever its shape.
- `Token.readPieces?_flatMap_escapeOctet`: what is written between quotation marks is read back.
- `Token.next?_write`: every token is read back.
- `Token.Spells.tokenize?`: octets that spell tokens are divided into them.
-/

namespace RegistryBench.Token

/-! ### Digits -/

/-- The octet of a digit is read as that digit. -/
@[simp]
theorem digit?_digitOctet (d : Fin 10) : digit? (digitOctet d) = some d := by
  revert d
  decide

/-- Nothing at the front continues a run of digits. -/
def EndsDigits (octets : Bytes) : Prop :=
  ∀ octet ∈ octets.head?, digit? octet = none

/-- No digits are taken where none stand. -/
theorem takeDigits_of_endsDigits {octets : Bytes} (h : EndsDigits octets) :
    takeDigits octets = ([], octets) := by
  cases octets with
  | nil => rfl
  | cons octet rest => rw [takeDigits, h octet rfl]

/-- All the digits that stand there are taken, and what follows is left. -/
theorem takeDigits_append (digits : List (Fin 10)) {rest : Bytes} (h : EndsDigits rest) :
    takeDigits (digits.map digitOctet ++ rest) = (digits, rest) := by
  induction digits with
  | nil => exact takeDigits_of_endsDigits h
  | cons d digits ih =>
    rw [List.map_cons, List.cons_append, takeDigits, digit?_digitOctet, ih]

/-- One more digit counts the digits before it ten times. -/
theorem ofDigits_append_singleton (digits : List (Fin 10)) (d : Fin 10) :
    ofDigits (digits ++ [d]) = 10 * ofDigits digits + d := by
  simp [ofDigits, List.foldl_append]

theorem ofNat_toNat_digitChar : ∀ d : Fin 10,
    UInt8.ofNat (Nat.digitChar d.val).toNat = digitOctet d := by
  decide

/-- The digits of a number: they make it up, and the first of several is not zero. -/
theorem exists_decimal_eq (n : Nat) :
    ∃ first more, decimal n = (first :: more).map digitOctet ∧ ofDigits (first :: more) = n ∧
      (more ≠ [] → first.val ≠ 0) := by
  induction n using Nat.strongRecOn with
  | ind n ih =>
    by_cases hn : n < 10
    · refine ⟨⟨n, hn⟩, [], ?_, by simp [ofDigits], fun h => absurd rfl h⟩
      rw [decimal, Nat.toDigits_of_lt_base hn]
      exact congrArg (fun octet => [octet]) (ofNat_toNat_digitChar ⟨n, hn⟩)
    · -- the last digit comes behind those of the tenth part
      obtain ⟨first, more, hoctets, hvalue, hfirst⟩ := ih (n / 10) (by omega)
      let last : Fin 10 := ⟨n % 10, Nat.mod_lt n (by decide)⟩
      have hlast : UInt8.ofNat (Nat.digitChar (n % 10)).toNat = digitOctet last :=
        ofNat_toNat_digitChar last
      refine ⟨first, more ++ [last], ?_, ?_, fun _ hzero => ?_⟩
      · rw [decimal] at hoctets
        rw [decimal, Nat.toDigits_eq_if (by decide), if_neg hn, List.map_append, hoctets,
          List.map_singleton, hlast, ← List.cons_append, List.map_append, List.map_singleton]
      · rw [← List.cons_append, ofDigits_append_singleton, hvalue]
        show 10 * (n / 10) + n % 10 = n
        omega
      · by_cases hmore : more = []
        · subst hmore
          have hsingle : first.val = n / 10 := by simpa [ofDigits] using hvalue
          omega
        · exact hfirst hmore hzero

/-- A natural number is read from its decimal digits, which begin with zero for zero only. -/
theorem takeDigits_decimal (n : Nat) {rest : Bytes} (h : EndsDigits rest) :
    ∃ first more, takeDigits (decimal n ++ rest) = (first :: more, rest) ∧
      ofDigits (first :: more) = n ∧ (more ≠ [] → first.val ≠ 0) := by
  obtain ⟨first, more, hoctets, hvalue, hfirst⟩ := exists_decimal_eq n
  exact ⟨first, more, hoctets ▸ takeDigits_append (first :: more) h, hvalue, hfirst⟩

/-! ### Numerals -/

/-- Nothing at the front continues a numeral: no digit, point or letter of an exponent. -/
def EndsNumeral (octets : Bytes) : Prop :=
  ∀ octet ∈ octets.head?, digit? octet = none ∧ octet ≠ 0x2E ∧ octet ≠ 0x65 ∧ octet ≠ 0x45

theorem endsNumeral_nil : EndsNumeral [] := nofun

theorem endsNumeral_cons {octet : UInt8}
    (h : digit? octet = none ∧ octet ≠ 0x2E ∧ octet ≠ 0x65 ∧ octet ≠ 0x45) (rest : Bytes) :
    EndsNumeral (octet :: rest) := by
  intro first hfirst
  obtain rfl := Option.some.inj hfirst
  exact h

/-- The whole part of a numeral is read back from its digits. -/
theorem readWhole?_decimal (n : Nat) {rest : Bytes} (h : EndsDigits rest) :
    readWhole? (decimal n ++ rest) = some (n, rest) := by
  obtain ⟨first, more, htake, hvalue, hfirst⟩ := takeDigits_decimal n h
  cases more with
  | nil =>
    have hsingle : first.val = n := by simpa [ofDigits] using hvalue
    simp only [readWhole?, htake, hsingle]
  | cons second more =>
    simp only [readWhole?, htake, if_neg (hfirst (List.cons_ne_nil _ _)), hvalue]

/-- What a fraction puts behind the whole part. -/
def fractionOctets (fraction : List (Fin 10)) : Bytes :=
  if fraction = [] then [] else 0x2E :: fraction.map digitOctet

/-- What an exponent puts behind the fraction. -/
def exponentOctets : Option Int → Bytes
  | none => []
  | some e => 0x65 :: (if e < 0 then 0x2D else 0x2B) :: decimal e.natAbs

/-- A numeral is a sign, a whole part, a fraction and an exponent, of which some may be missing. -/
theorem writeNumeral_eq (n : Numeral) :
    writeNumeral n = (if n.negative then [0x2D] else []) ++ (decimal n.whole ++
      (fractionOctets n.fraction ++ exponentOctets n.exponent)) := by
  obtain ⟨negative, whole, fraction, exponent⟩ := n
  cases exponent <;> simp [writeNumeral, fractionOctets, exponentOctets]

/-- The fraction of a numeral is read back; a missing one is not mistaken for the point of another.
-/
theorem readFraction?_append (fraction : List (Fin 10)) {rest : Bytes} (h : EndsDigits rest)
    (hpoint : rest.head? ≠ some 0x2E) :
    readFraction? (fractionOctets fraction ++ rest) = some (fraction, rest) := by
  cases fraction with
  | nil =>
    -- without a fraction nothing is written, and what follows must not look like one
    have hstrip : (strip 0x2E rest).1 = false := by
      cases rest with
      | nil => rfl
      | cons octet rest =>
        have hne : octet ≠ 0x2E := fun heq => hpoint (congrArg some heq)
        rw [strip, if_neg hne]
    rw [fractionOctets, if_pos rfl, List.nil_append, readFraction?]
    split
    · rfl
    · next heq => rw [heq] at hstrip; cases hstrip
  | cons d fraction =>
    rw [fractionOctets, if_neg (List.cons_ne_nil _ _), List.cons_append, readFraction?, strip,
      if_pos rfl]
    simp only [takeDigits_append (d :: fraction) h]

/-- The exponent of a numeral is read back with its sign. -/
theorem readSigned?_append (e : Int) {rest : Bytes} (h : EndsDigits rest) :
    readSigned? ((if e < 0 then 0x2D else 0x2B) :: decimal e.natAbs ++ rest) = some (e, rest) := by
  obtain ⟨first, more, htake, hvalue, -⟩ := takeDigits_decimal e.natAbs h
  by_cases he : e < 0
  · have hneg : -(e.natAbs : Int) = e := by omega
    simp only [if_pos he, List.cons_append, readSigned?, strip, if_true, htake, hvalue, hneg]
  · have hpos : (e.natAbs : Int) = e := by omega
    have hsign : ¬ (0x2B : UInt8) = 0x2D := by decide
    simp only [if_neg he, List.cons_append, readSigned?, strip, if_neg hsign, Bool.false_eq_true,
      if_false, if_true, htake, hvalue, hpos]

/-- The exponent of a numeral is read back, and a missing one is found missing. -/
theorem readExponent?_append (exponent : Option Int) {rest : Bytes} (h : EndsNumeral rest) :
    readExponent? (exponentOctets exponent ++ rest) = some (exponent, rest) := by
  cases exponent with
  | none =>
    cases rest with
    | nil => rfl
    | cons octet rest =>
      obtain ⟨-, -, he, hE⟩ := h octet rfl
      simp [exponentOctets, readExponent?, he, hE]
  | some e =>
    have hdigits : EndsDigits rest := fun octet hmem => (h octet hmem).1
    rw [exponentOctets, List.cons_append, readExponent?, if_pos (Or.inl rfl),
      readSigned?_append e hdigits]
    rfl

/-- Behind a fraction stands no digit and no point. -/
theorem endsDigits_exponentOctets (exponent : Option Int) {rest : Bytes} (h : EndsNumeral rest) :
    EndsDigits (exponentOctets exponent ++ rest) ∧
      (exponentOctets exponent ++ rest).head? ≠ some 0x2E := by
  cases exponent with
  | none => exact ⟨fun octet hmem => (h octet hmem).1, fun hpoint => (h 0x2E hpoint).2.1 rfl⟩
  | some e =>
    refine ⟨fun octet hmem => ?_, by simp [exponentOctets]⟩
    obtain rfl : 0x65 = octet := Option.some.inj hmem
    rfl

/-- Behind a whole part stands no digit. -/
theorem endsDigits_fractionOctets (fraction : List (Fin 10)) {rest : Bytes}
    (h : EndsDigits rest) : EndsDigits (fractionOctets fraction ++ rest) := by
  cases fraction with
  | nil => exact h
  | cons d fraction =>
    intro octet hmem
    obtain rfl : 0x2E = octet := Option.some.inj hmem
    rfl

theorem digitOctet_ne_minus : ∀ d : Fin 10, digitOctet d ≠ 0x2D := by
  decide

/-- The sign of a numeral is read back: no digit is a minus sign. -/
theorem strip_sign (negative : Bool) (n : Nat) (rest : Bytes) :
    strip 0x2D ((if negative then [0x2D] else []) ++ (decimal n ++ rest)) =
      (negative, decimal n ++ rest) := by
  cases negative with
  | true => rfl
  | false =>
    obtain ⟨first, more, hoctets, -, -⟩ := exists_decimal_eq n
    rw [hoctets]
    exact if_neg (digitOctet_ne_minus first)

/-- Every numeral is read back, if what follows cannot continue it. -/
theorem readNumeral?_writeNumeral (n : Numeral) {rest : Bytes} (h : EndsNumeral rest) :
    readNumeral? (writeNumeral n ++ rest) = some (n, rest) := by
  obtain ⟨hexponent, hpoint⟩ := endsDigits_exponentOctets n.exponent h
  have hfraction := endsDigits_fractionOctets n.fraction hexponent
  have hoctets : writeNumeral n ++ rest = (if n.negative then [0x2D] else []) ++
      (decimal n.whole ++ (fractionOctets n.fraction ++ (exponentOctets n.exponent ++ rest))) := by
    simp only [writeNumeral_eq, List.append_assoc]
  simp only [hoctets, readNumeral?, strip_sign, readWhole?_decimal n.whole hfraction,
    readFraction?_append n.fraction hexponent hpoint, readExponent?_append n.exponent h,
    Option.bind_eq_bind, Option.bind_some]

/-! ### String literals -/

/-- The item that an octet of a text is read as: control characters without a short escape are
written by their number. -/
def piece (octet : UInt8) : Piece :=
  if octet < 0x20 ∧ octet ∉ [0x08, 0x0C, 0x0A, 0x0D, 0x09] then .unit octet.toNat else .octet octet

/-- A hexadecimal digit is read as its value. -/
theorem hexValue?_digitChar : ∀ d : Fin 16,
    Text.hexValue? (UInt8.ofNat (Nat.digitChar d.val).toNat) = some d.val := by
  decide

/-- A control character is read back from the two digits of its escape. -/
theorem unit?_hexPair {octet : UInt8} (h : octet < 0x20) :
    unit? 0x30 0x30 (UInt8.ofNat (Nat.digitChar (octet.toNat / 16)).toNat)
      (UInt8.ofNat (Nat.digitChar (octet.toNat % 16)).toNat) = some octet.toNat := by
  have hbound : octet.toNat < 32 := h
  have hhigh := hexValue?_digitChar ⟨octet.toNat / 16, by omega⟩
  have hlow := hexValue?_digitChar ⟨octet.toNat % 16, by omega⟩
  have hzero : Text.hexValue? 0x30 = some 0 := rfl
  simp only [unit?, hzero, hhigh, hlow, Option.bind_eq_bind, Option.bind_some, Option.some.injEq]
  omega

/-- An item before others. -/
def before (item : Piece) (pieces : Option (List Piece × Bytes)) : Option (List Piece × Bytes) :=
  pieces.map fun (pieces, rest) => (item :: pieces, rest)

/-- A short escape is read as the octet that it stands for. -/
theorem readPieces?_short {escape octet : UInt8} (hunit : escape ≠ 0x75)
    (h : shortEscape? escape = some octet) (rest : Bytes) :
    readPieces? (0x5C :: escape :: rest) = before (.octet octet) (readPieces? rest) := by
  have hbackslash : (0x5C : UInt8) ≠ 0x22 := by decide
  rw [readPieces?.eq_def]
  simp only [if_neg hbackslash, if_true, if_neg hunit, h]
  rfl

/-- An escape of four digits is read as the unit that it stands for. -/
theorem readPieces?_unit {p q r s : UInt8} {u : Nat} (h : unit? p q r s = some u) (rest : Bytes) :
    readPieces? (0x5C :: 0x75 :: p :: q :: r :: s :: rest) =
      before (.unit u) (readPieces? rest) := by
  have hbackslash : (0x5C : UInt8) ≠ 0x22 := by decide
  rw [readPieces?.eq_def]
  simp only [if_neg hbackslash, if_true, h]
  rfl

/-- An octet that needs no escape is read as itself. -/
theorem readPieces?_plain {octet : UInt8} (hquote : octet ≠ 0x22) (hbackslash : octet ≠ 0x5C)
    (hcontrol : ¬ octet < 0x20) (rest : Bytes) :
    readPieces? (octet :: rest) = before (.octet octet) (readPieces? rest) := by
  rw [readPieces?.eq_def]
  simp only [if_neg hquote, if_neg hbackslash, if_neg hcontrol]
  rfl

/-- What an octet is written as is read as its item. -/
theorem readPieces?_escapeOctet (octet : UInt8) (rest : Bytes) :
    readPieces? (escapeOctet octet ++ rest) = before (piece octet) (readPieces? rest) := by
  unfold escapeOctet
  -- these octets have an escape of one letter
  iterate 7
    split
    · next h => subst h; exact readPieces?_short (by decide) rfl rest
  split
  · next hb hf hn hr ht hcontrol =>
    rw [piece, if_pos ⟨hcontrol, by simp [hb, hf, hn, hr, ht]⟩]
    exact readPieces?_unit (unit?_hexPair hcontrol) rest
  · next hquote hbackslash _ _ _ _ _ hcontrol =>
    rw [piece, if_neg fun h => hcontrol h.1]
    exact readPieces?_plain hquote hbackslash hcontrol rest

/-- What is written between quotation marks is read back, up to the closing one. -/
theorem readPieces?_flatMap_escapeOctet (octets rest : Bytes) :
    readPieces? (octets.flatMap escapeOctet ++ 0x22 :: rest) = some (octets.map piece, rest) := by
  induction octets with
  | nil =>
    rw [readPieces?.eq_def]
    rfl
  | cons octet octets ih =>
    rw [List.flatMap_cons, List.append_assoc, readPieces?_escapeOctet, ih, List.map_cons]
    rfl

theorem codeOctets_control : ∀ u : Fin 32, codeOctets u.val = [UInt8.ofNat u.val] := by
  decide +kernel

/-- A control character given by its number stands for itself, whatever follows. -/
theorem assemble?_unit {u : Nat} (h : u < 32) (pieces : List Piece) :
    assemble? (.unit u :: pieces) = (assemble? pieces).map (UInt8.ofNat u :: ·) := by
  have hhigh : isHighSurrogate u = false := by simp [isHighSurrogate]; omega
  have hlow : isLowSurrogate u = false := by simp [isLowSurrogate]; omega
  have hcode : codeOctets u = [UInt8.ofNat u] := codeOctets_control ⟨u, h⟩
  cases pieces with
  | nil => simp [assemble?, hhigh, hlow, hcode]
  | cons next pieces =>
    cases next with
    | octet o => simp [assemble?, hhigh, hlow, hcode]
    | unit v =>
      rw [assemble?, hhigh, hlow, hcode]
      rfl

/-- Pieces that stand for octets are put together to these octets. -/
theorem assemble?_map_piece (octets : Bytes) : assemble? (octets.map piece) = some octets := by
  induction octets with
  | nil => rfl
  | cons octet octets ih =>
    rw [List.map_cons, piece]
    split
    · next hcontrol =>
      have hbound : octet.toNat < 32 := hcontrol.1
      rw [assemble?_unit hbound, ih, UInt8.ofNat_toNat]
      rfl
    · rw [assemble?, ih]
      rfl

/-- The pieces of a text are put together to that text. -/
theorem content_map_piece (text : String) : content ((Text.utf8 text).map piece) = some text := by
  rw [content, assemble?_map_piece, Option.bind_some, Text.ofUtf8?_utf8]

/-! ### Tokens -/

theorem readWord?_append (word : Bytes) (token : Token) (rest : Bytes) :
    readWord? word token (word ++ rest) = some (token, rest) := by
  rw [readWord?, if_pos (List.isPrefixOf_iff_prefix.2 (List.prefix_append word rest)),
    List.drop_left]

/-- A literal is the next token of a text that begins with it. -/
theorem next?_string (literal : Literal) (rest : Bytes) :
    next? (writeLiteral literal ++ rest) = some (.string literal, rest) := by
  cases literal with
  | none =>
    -- a lone surrogate, which denotes no text
    have hpieces : readPieces? (0x5C :: 0x75 :: 0x64 :: 0x38 :: 0x30 :: 0x30 :: 0x22 :: rest) =
        some ([.unit 0xD800], rest) := by
      rw [@readPieces?_unit 0x64 0x38 0x30 0x30 0xD800 rfl, readPieces?.eq_def]
      rfl
    have hcontent : content [.unit 0xD800] = none := rfl
    rw [writeLiteral, List.cons_append, next?]
    simp only [List.cons_append, List.nil_append, hpieces, Option.map_some, hcontent]
    rfl
  | some text =>
    have hoctets : writeLiteral (some text) ++ rest =
        0x22 :: ((Text.utf8 text).flatMap escapeOctet ++ 0x22 :: rest) := by
      simp [writeLiteral]
    rw [hoctets, next?]
    simp only [readPieces?_flatMap_escapeOctet, Option.map_some, content_map_piece]
    rfl

/-- The octets that begin tokens other than numbers. -/
def otherStarts : Bytes :=
  [0x5B, 0x5D, 0x7B, 0x7D, 0x2C, 0x3A, 0x22, 0x6E, 0x74, 0x66]

theorem digitOctet_not_mem_otherStarts :
    ∀ d : Fin 10, digitOctet d ∉ otherStarts ∧ isBlank (digitOctet d) = false := by
  decide

/-- A numeral begins with an octet that no other token and no blank begins with. -/
theorem exists_writeNumeral_eq (n : Numeral) :
    ∃ first more, writeNumeral n = first :: more ∧ first ∉ otherStarts ∧
      isBlank first = false := by
  obtain ⟨d, more, hoctets, -, -⟩ := exists_decimal_eq n.whole
  rw [writeNumeral_eq, hoctets]
  cases n.negative with
  | true => exact ⟨0x2D, _, rfl, by decide⟩
  | false => exact ⟨digitOctet d, _, rfl, digitOctet_not_mem_otherStarts d⟩

/-- A numeral begins with an octet that begins no other token. -/
theorem next?_numeral (n : Numeral) (rest : Bytes) :
    next? (writeNumeral n ++ rest) =
      (readNumeral? (writeNumeral n ++ rest)).map fun (n, rest) => (number n, rest) := by
  obtain ⟨first, more, hoctets, hfirst, -⟩ := exists_writeNumeral_eq n
  simp only [otherStarts, List.mem_cons, not_or] at hfirst
  rw [hoctets, List.cons_append, next?]
  simp only [hfirst, if_false]

/-- Every token is read back; a number, if what follows cannot continue it. -/
theorem next?_write {token : Token} {rest : Bytes}
    (h : ∀ n, token = .number n → EndsNumeral rest) :
    next? (token.write ++ rest) = some (token, rest) := by
  cases token with
  | openList => rfl
  | closeList => rfl
  | openObject => rfl
  | closeObject => rfl
  | comma => rfl
  | colon => rfl
  | null => exact readWord?_append (write null) null rest
  | bool b =>
    cases b with
    | false => exact readWord?_append (write (bool false)) (bool false) rest
    | true => exact readWord?_append (write (bool true)) (bool true) rest
  | number n =>
    rw [write, next?_numeral, readNumeral?_writeNumeral n (h n rfl)]
    rfl
  | string literal => exact next?_string literal rest

/-! ### Tokens in a row -/

/-- Octets that spell tokens, with blanks between them. What follows a number cannot continue
it. -/
inductive Spells : Bytes → List Token → Prop
  /-- No octets spell no tokens. -/
  | nil : Spells [] []
  /-- Blanks may stand anywhere between tokens. -/
  | blank {octet : UInt8} {rest : Bytes} {tokens : List Token} (hblank : isBlank octet = true)
      (hrest : Spells rest tokens) : Spells (octet :: rest) tokens
  /-- A token stands before what is left. -/
  | token {token : Token} {rest : Bytes} {tokens : List Token}
      (hends : ∀ n, token = .number n → EndsNumeral rest) (hrest : Spells rest tokens) :
      Spells (token.write ++ rest) (token :: tokens)

/-- A token is not empty, and does not begin with a blank. -/
theorem exists_write_eq (token : Token) :
    ∃ first more, token.write = first :: more ∧ isBlank first = false := by
  cases token with
  | number n =>
    obtain ⟨first, more, hoctets, -, hblank⟩ := exists_writeNumeral_eq n
    exact ⟨first, more, hoctets, hblank⟩
  | string literal => cases literal <;> exact ⟨0x22, _, rfl, rfl⟩
  | bool b => cases b <;> exact ⟨_, _, rfl, rfl⟩
  | _ => exact ⟨_, _, rfl, rfl⟩

/-- Blanks in front of a text make no difference. -/
theorem tokenizeUpTo?_blank {octet : UInt8} (h : isBlank octet = true) (limit : Nat)
    (rest : Bytes) : tokenizeUpTo? limit (octet :: rest) = tokenizeUpTo? limit rest := by
  rw [tokenizeUpTo?.eq_def, tokenizeUpTo?.eq_def limit rest]
  simp only [List.dropWhile_cons_of_pos h]

/-- The token that a text begins with is found first, unless it is a numeral that runs on. -/
theorem tokenizeUpTo?_token {token : Token} {rest : Bytes}
    (h : ∀ n, token = .number n → EndsNumeral rest) (limit : Nat) :
    tokenizeUpTo? (limit + 1) (token.write ++ rest) =
      (tokenizeUpTo? limit rest).map (token :: ·) := by
  obtain ⟨first, more, hwrite, hfirst⟩ := exists_write_eq token
  have hnext := next?_write h
  have hnot : ¬ isBlank first = true := by simp [hfirst]
  rw [hwrite, List.cons_append] at hnext
  rw [hwrite, List.cons_append, tokenizeUpTo?.eq_def]
  simp only [List.dropWhile_cons_of_neg hnot, hnext]

/-- A text spells at most as many tokens as it has octets. -/
theorem Spells.length_le {octets : Bytes} {tokens : List Token} (h : Spells octets tokens) :
    tokens.length ≤ octets.length := by
  induction h with
  | nil => exact Nat.le_refl 0
  | blank _ _ ih => exact Nat.le_succ_of_le ih
  | @token token rest tokens _ _ ih =>
    obtain ⟨first, more, hwrite, -⟩ := exists_write_eq token
    simp only [hwrite, List.cons_append, List.length_cons, List.length_append]
    omega

/-- The tokens that a text spells are found in it when enough steps are allowed. -/
theorem Spells.tokenizeUpTo? {octets : Bytes} {tokens : List Token} (h : Spells octets tokens)
    {limit : Nat} (hlimit : tokens.length ≤ limit) :
    Token.tokenizeUpTo? limit octets = some tokens := by
  induction h generalizing limit with
  | nil =>
    rw [Token.tokenizeUpTo?.eq_def]
    rfl
  | blank hblank _ ih => rw [tokenizeUpTo?_blank hblank, ih hlimit]
  | token hends _ ih =>
    cases limit with
    | zero => exact absurd hlimit (Nat.not_succ_le_zero _)
    | succ limit =>
      rw [tokenizeUpTo?_token hends, ih (Nat.le_of_succ_le_succ hlimit)]
      rfl

/-- Octets that spell tokens are divided into them. -/
theorem Spells.tokenize? {octets : Bytes} {tokens : List Token} (h : Spells octets tokens) :
    Token.tokenize? octets = some tokens :=
  h.tokenizeUpTo? h.length_le

end RegistryBench.Token
