import RegistryBench.Json.Reader
import RegistryBench.Json.Writer
import RegistryBench.Proofs.Json.Tokens

/-!
# Both layouts are read back

A value is a sequence of tokens, which both layouts spell: the compact one without blanks, the
indented one with line feeds and blanks between them. The reader puts the tokens together to the
value again, so either text is read as the value it was written for, down to the order of members,
repeated keys and the shape of numerals.

## Main results

- `read?_compact` and `read?_indented`: what is written is read back.
-/

namespace RegistryBench.Json

mutual

/-- The tokens of a value. -/
def tokens : Json → List Token
  | null => [.null]
  | bool b => [.bool b]
  | number n => [.number n]
  | string s => [.string s]
  | list items => .openList :: (itemTokens items ++ [.closeList])
  | object members => .openObject :: (memberTokens members ++ [.closeObject])

/-- The tokens of the items of a list. -/
def itemTokens : List Json → List Token
  | [] => []
  | [item] => item.tokens
  | item :: items => item.tokens ++ .comma :: itemTokens items

/-- The tokens of the members of an object. -/
def memberTokens : List (Literal × Json) → List Token
  | [] => []
  | [(key, value)] => .string key :: .colon :: value.tokens
  | (key, value) :: members =>
    .string key :: .colon :: (value.tokens ++ .comma :: memberTokens members)

end

/-! ### Tokens are put together -/

open Progress

/-- The first token of a value does not end a list. -/
theorem exists_tokens_eq (value : Json) :
    ∃ first more, value.tokens = first :: more ∧ first ≠ .closeList := by
  cases value <;> exact ⟨_, _, rfl, nofun⟩

/-- A list that is not empty does not begin with the bracket that closes it. -/
theorem exists_itemTokens_eq (item : Json) (items : List Json) :
    ∃ first more, itemTokens (item :: items) = first :: more ∧ first ≠ .closeList := by
  obtain ⟨first, more, hfirst, hne⟩ := exists_tokens_eq item
  cases items with
  | nil => exact ⟨first, more, hfirst, hne⟩
  | cons next items =>
    exact ⟨first, more ++ .comma :: itemTokens (next :: items), congrArg (· ++ _) hfirst, hne⟩

/-- An opened list that has items goes on as one that awaits an item. -/
theorem run?_listStart (item : Json) (items : List Json) (stack : List Open) (rest : List Token) :
    (listStart stack).run? (itemTokens (item :: items) ++ rest) =
      (value (.list [] :: stack)).run? (itemTokens (item :: items) ++ rest) := by
  obtain ⟨first, more, hfirst, hne⟩ := exists_itemTokens_eq item items
  rw [hfirst]
  cases first with
  | closeList => exact absurd rfl hne
  | _ => rfl

/-- An opened object that has members goes on as one that awaits a key. -/
theorem run?_objectStart (member : Literal × Json) (members : List (Literal × Json))
    (stack : List Open) (rest : List Token) :
    (objectStart stack).run? (memberTokens (member :: members) ++ rest) =
      (key [] stack).run? (memberTokens (member :: members) ++ rest) := by
  cases members <;> rfl

theorem itemTokens_cons_cons (item next : Json) (items : List Json) :
    itemTokens (item :: next :: items) = item.tokens ++ .comma :: itemTokens (next :: items) :=
  rfl

theorem memberTokens_cons_cons (k : Literal) (v : Json) (next : Literal × Json)
    (members : List (Literal × Json)) :
    memberTokens ((k, v) :: next :: members) =
      .string k :: .colon :: (v.tokens ++ .comma :: memberTokens (next :: members)) :=
  rfl

mutual

/-- Where a value may come, the tokens of a value deliver it. -/
theorem run?_tokens : ∀ (v : Json) (stack : List Open) (rest : List Token),
    (value stack).run? (v.tokens ++ rest) = (deliver v stack).run? rest
  | null, _, _ => rfl
  | bool _, _, _ => rfl
  | number _, _, _ => rfl
  | string _, _, _ => rfl
  | list [], _, _ => rfl
  | object [], _, _ => rfl
  | list (item :: items), stack, rest => by
    rw [tokens, List.cons_append, List.append_assoc]
    exact (run?_listStart item items stack (.closeList :: rest)).trans
      (run?_itemTokens (item :: items) [] stack rest (List.cons_ne_nil _ _))
  | object (member :: members), stack, rest => by
    rw [tokens, List.cons_append, List.append_assoc]
    exact (run?_objectStart member members stack (.closeObject :: rest)).trans
      (run?_memberTokens (member :: members) [] stack rest (List.cons_ne_nil _ _))

/-- Where an item may come, the items left and the end of the list deliver the whole list. -/
theorem run?_itemTokens : ∀ (items read : List Json) (stack : List Open) (rest : List Token),
    items ≠ [] → (value (.list read :: stack)).run? (itemTokens items ++ .closeList :: rest) =
      (deliver (list (read.reverse ++ items)) stack).run? rest
  | [], _, _, _, h => absurd rfl h
  | [item], read, stack, rest, _ => by
    rw [itemTokens, run?_tokens item, ← List.reverse_cons]
    rfl
  | item :: next :: items, read, stack, rest, _ => by
    -- the stack holds the items read so far in reverse
    have hmore := run?_itemTokens (next :: items) (item :: read) stack rest (List.cons_ne_nil _ _)
    rw [List.reverse_cons, List.append_assoc] at hmore
    rw [itemTokens_cons_cons, List.append_assoc, run?_tokens item]
    exact hmore

/-- Where a key may come, the members left and the end of the object deliver the whole object. -/
theorem run?_memberTokens : ∀ (members read : List (Literal × Json)) (stack : List Open)
    (rest : List Token),
    members ≠ [] → (key read stack).run? (memberTokens members ++ .closeObject :: rest) =
      (deliver (object (read.reverse ++ members)) stack).run? rest
  | [], _, _, _, h => absurd rfl h
  | [(k, v)], read, stack, rest, _ => by
    have hvalue := run?_tokens v (.object read k :: stack) (.closeObject :: rest)
    rw [← List.reverse_cons]
    exact hvalue
  | (k, v) :: next :: members, read, stack, rest, _ => by
    have hvalue := run?_tokens v (.object read k :: stack)
      (.comma :: (memberTokens (next :: members) ++ .closeObject :: rest))
    have hmore := run?_memberTokens (next :: members) ((k, v) :: read) stack rest
      (List.cons_ne_nil _ _)
    rw [List.reverse_cons, List.append_assoc] at hmore
    rw [memberTokens_cons_cons, List.cons_append, List.cons_append, List.append_assoc]
    exact hvalue.trans hmore

end

/-- Tokens of a value are put together to it. -/
theorem ofTokens?_tokens (v : Json) : ofTokens? v.tokens = some v := by
  have hrun := run?_tokens v [] []
  rw [List.append_nil] at hrun
  rw [ofTokens?, hrun]
  rfl

/-- Octets that spell the tokens of a value are read as it. -/
theorem read?_of_spells {octets : Bytes} {v : Json} (h : Token.Spells octets v.tokens) :
    read? octets = some v := by
  rw [read?, h.tokenize?, Option.bind_some, ofTokens?_tokens]

/-! ### Layouts spell tokens -/

open Token (Spells EndsNumeral)

/-- A token that is no number may stand before anything. -/
theorem spells_write {token : Token} (htoken : ∀ n, token ≠ .number n) {rest : Bytes}
    {tokens : List Token} (h : Spells rest tokens) :
    Spells (token.write ++ rest) (token :: tokens) :=
  .token (fun n hn => absurd hn (htoken n)) h

theorem endsNumeral_comma (rest : Bytes) : EndsNumeral (Token.comma.write ++ rest) :=
  Token.endsNumeral_cons (by decide) rest

theorem endsNumeral_closeList (rest : Bytes) : EndsNumeral (Token.closeList.write ++ rest) :=
  Token.endsNumeral_cons (by decide) rest

theorem endsNumeral_closeObject (rest : Bytes) : EndsNumeral (Token.closeObject.write ++ rest) :=
  Token.endsNumeral_cons (by decide) rest

theorem write_string (s : Literal) : (Token.string s).write = Token.writeLiteral s := rfl

theorem compactItems_cons_cons (item next : Json) (items : List Json) :
    compactItems (item :: next :: items) =
      item.compact ++ Token.comma.write ++ compactItems (next :: items) :=
  rfl

theorem compactMembers_cons_cons (k : Literal) (v : Json) (next : Literal × Json)
    (members : List (Literal × Json)) :
    compactMembers ((k, v) :: next :: members) =
      Token.writeLiteral k ++ Token.colon.write ++ v.compact ++ Token.comma.write ++
        compactMembers (next :: members) :=
  rfl

-- A text is spelled from its end: what follows comes first, then the tokens before it.
mutual

/-- The compact text of a value spells its tokens, whatever follows, as long as no numeral runs on.
-/
theorem spells_compact : ∀ (v : Json) (rest : Bytes) (after : List Token), EndsNumeral rest →
    Spells rest after → Spells (v.compact ++ rest) (v.tokens ++ after)
  | null, _, _, _, h => @spells_write .null nofun _ _ h
  | bool b, _, _, _, h => @spells_write (.bool b) nofun _ _ h
  | number n, _, _, hends, h => @Spells.token (.number n) _ _ (fun _ _ => hends) h
  | string s, _, _, _, h => @spells_write (.string s) nofun _ _ h
  | list items, rest, after, _, h => by
    have hclose := @spells_write .closeList nofun _ _ h
    have hitems := spells_compactItems items _ _ (endsNumeral_closeList rest) hclose
    simpa only [compact, tokens, List.cons_append, List.append_assoc, List.nil_append] using
      @spells_write .openList nofun _ _ hitems
  | object members, rest, after, _, h => by
    have hclose := @spells_write .closeObject nofun _ _ h
    have hmembers := spells_compactMembers members _ _ (endsNumeral_closeObject rest) hclose
    simpa only [compact, tokens, List.cons_append, List.append_assoc, List.nil_append] using
      @spells_write .openObject nofun _ _ hmembers

/-- The compact text of items spells their tokens, with the commas between them. -/
theorem spells_compactItems : ∀ (items : List Json) (rest : Bytes) (after : List Token),
    EndsNumeral rest → Spells rest after →
      Spells (compactItems items ++ rest) (itemTokens items ++ after)
  | [], _, _, _, h => h
  | [item], rest, after, hends, h => spells_compact item rest after hends h
  | item :: next :: items, rest, after, hends, h => by
    have hmore := spells_compactItems (next :: items) rest after hends h
    have hcomma := @spells_write .comma nofun _ _ hmore
    have hitem := spells_compact item _ _ (endsNumeral_comma _) hcomma
    simpa only [compactItems_cons_cons, itemTokens_cons_cons, List.append_assoc,
      List.cons_append] using hitem

/-- The compact text of members spells their tokens, with the commas between them. -/
theorem spells_compactMembers : ∀ (members : List (Literal × Json)) (rest : Bytes)
    (after : List Token), EndsNumeral rest → Spells rest after →
      Spells (compactMembers members ++ rest) (memberTokens members ++ after)
  | [], _, _, _, h => h
  | [(k, v)], rest, after, hends, h => by
    have hvalue := @spells_write .colon nofun _ _ (spells_compact v rest after hends h)
    simpa only [compactMembers, memberTokens, write_string, List.append_assoc,
      List.cons_append] using
      @spells_write (.string k) nofun _ _ hvalue
  | (k, v) :: next :: members, rest, after, hends, h => by
    have hmore := spells_compactMembers (next :: members) rest after hends h
    have hcomma := @spells_write .comma nofun _ _ hmore
    have hvalue := @spells_write .colon nofun _ _
      (spells_compact v _ _ (endsNumeral_comma _) hcomma)
    simpa only [compactMembers_cons_cons, memberTokens_cons_cons, write_string, List.append_assoc,
      List.cons_append] using @spells_write (.string k) nofun _ _ hvalue

end

/-- The compact layout is read back. -/
theorem read?_compact (v : Json) : read? v.compact = some v := by
  have hspells := spells_compact v [] [] Token.endsNumeral_nil .nil
  rw [List.append_nil, List.append_nil] at hspells
  exact read?_of_spells hspells

/-! ### The indented layout -/

/-- A line begins with blanks. -/
theorem spells_newLine (depth : Nat) {rest : Bytes} {after : List Token} (h : Spells rest after) :
    Spells (newLine depth ++ rest) after := by
  have hspaces : ∀ count, Spells (List.replicate count 0x20 ++ rest) after := by
    intro count
    induction count with
    | zero => exact h
    | succ count ih => exact .blank rfl ih
  exact .blank rfl (hspaces (2 * depth))

/-- No numeral runs on over the end of a line. -/
theorem endsNumeral_newLine (depth : Nat) (rest : Bytes) : EndsNumeral (newLine depth ++ rest) :=
  Token.endsNumeral_cons (by decide) (List.replicate (2 * depth) 0x20 ++ rest)

theorem indentedItems_cons_cons (depth : Nat) (item next : Json) (items : List Json) :
    indentedItems depth (item :: next :: items) =
      newLine depth ++ indentedAt depth item ++ Token.comma.write ++
        indentedItems depth (next :: items) :=
  rfl

theorem indentedMembers_cons_cons (depth : Nat) (k : Literal) (v : Json) (next : Literal × Json)
    (members : List (Literal × Json)) :
    indentedMembers depth ((k, v) :: next :: members) =
      newLine depth ++ Token.writeLiteral k ++ Token.colon.write ++ 0x20 :: indentedAt depth v ++
        Token.comma.write ++ indentedMembers depth (next :: members) :=
  rfl

mutual

/-- The indented text of a value spells the same tokens as the compact one, at any depth. -/
theorem spells_indentedAt : ∀ (v : Json) (depth : Nat) (rest : Bytes) (after : List Token),
    EndsNumeral rest → Spells rest after →
      Spells (indentedAt depth v ++ rest) (v.tokens ++ after)
  | null, _, _, _, _, h => @spells_write .null nofun _ _ h
  | bool b, _, _, _, _, h => @spells_write (.bool b) nofun _ _ h
  | number n, _, _, _, hends, h => @Spells.token (.number n) _ _ (fun _ _ => hends) h
  | string s, _, _, _, _, h => @spells_write (.string s) nofun _ _ h
  | list [], _, _, _, _, h =>
    @spells_write .openList nofun _ _ (@spells_write .closeList nofun _ _ h)
  | object [], _, _, _, _, h =>
    @spells_write .openObject nofun _ _ (@spells_write .closeObject nofun _ _ h)
  | list (item :: items), depth, rest, after, _, h => by
    have hclose := spells_newLine depth (@spells_write .closeList nofun _ _ h)
    have hitems := spells_indentedItems (item :: items) (depth + 1) _ _
      (endsNumeral_newLine depth _) hclose
    simpa only [indentedAt, tokens, List.cons_append, List.append_assoc, List.nil_append] using
      @spells_write .openList nofun _ _ hitems
  | object (member :: members), depth, rest, after, _, h => by
    have hclose := spells_newLine depth (@spells_write .closeObject nofun _ _ h)
    have hmembers := spells_indentedMembers (member :: members) (depth + 1) _ _
      (endsNumeral_newLine depth _) hclose
    simpa only [indentedAt, tokens, List.cons_append, List.append_assoc, List.nil_append] using
      @spells_write .openObject nofun _ _ hmembers

/-- The indented text of items spells their tokens, each on a line of its own. -/
theorem spells_indentedItems : ∀ (items : List Json) (depth : Nat) (rest : Bytes)
    (after : List Token), EndsNumeral rest → Spells rest after →
      Spells (indentedItems depth items ++ rest) (itemTokens items ++ after)
  | [], _, _, _, _, h => h
  | [item], depth, rest, after, hends, h => by
    have hitem := spells_newLine depth (spells_indentedAt item depth rest after hends h)
    simpa only [indentedItems, itemTokens, List.append_assoc] using hitem
  | item :: next :: items, depth, rest, after, hends, h => by
    have hmore := spells_indentedItems (next :: items) depth rest after hends h
    have hcomma := @spells_write .comma nofun _ _ hmore
    have hitem := spells_newLine depth
      (spells_indentedAt item depth _ _ (endsNumeral_comma _) hcomma)
    simpa only [indentedItems_cons_cons, itemTokens_cons_cons, List.append_assoc,
      List.cons_append] using hitem

/-- The indented text of members spells their tokens, each on a line of its own. -/
theorem spells_indentedMembers : ∀ (members : List (Literal × Json)) (depth : Nat) (rest : Bytes)
    (after : List Token), EndsNumeral rest → Spells rest after →
      Spells (indentedMembers depth members ++ rest) (memberTokens members ++ after)
  | [], _, _, _, _, h => h
  | [(k, v)], depth, rest, after, hends, h => by
    have hvalue : Spells (0x20 :: (indentedAt depth v ++ rest)) (v.tokens ++ after) :=
      .blank rfl (spells_indentedAt v depth rest after hends h)
    have hmember := spells_newLine depth
      (@spells_write (.string k) nofun _ _ (@spells_write .colon nofun _ _ hvalue))
    simpa only [indentedMembers, memberTokens, write_string, List.append_assoc,
      List.cons_append] using hmember
  | (k, v) :: next :: members, depth, rest, after, hends, h => by
    have hmore := spells_indentedMembers (next :: members) depth rest after hends h
    have hcomma := @spells_write .comma nofun _ _ hmore
    have hvalue := @Spells.blank 0x20 _ _ rfl
      (spells_indentedAt v depth _ _ (endsNumeral_comma _) hcomma)
    have hmember := spells_newLine depth
      (@spells_write (.string k) nofun _ _ (@spells_write .colon nofun _ _ hvalue))
    simpa only [indentedMembers_cons_cons, memberTokens_cons_cons, write_string,
      List.append_assoc, List.cons_append] using hmember

end

/-- The indented layout is read back. -/
theorem read?_indented (v : Json) : read? v.indented = some v := by
  have hspells := spells_indentedAt v 0 [] [] Token.endsNumeral_nil .nil
  rw [List.append_nil, List.append_nil] at hspells
  exact read?_of_spells hspells

end RegistryBench.Json
