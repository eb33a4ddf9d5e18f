/-!
# Cutting text at a separator

Composite names, digests and image ids are two texts around a separator. `cut?` divides at the
first occurrence; `split` divides at every one.
-/

namespace RegistryBench.Text

/-- The text before and the text after the first `sep`, or `none` when there is no `sep`. -/
def cut? (sep : Char) (text : String) : Option (String × String) :=
  match text.toList.dropWhile (· != sep) with
  | [] => none
  | _ :: after =>
    some (String.ofList (text.toList.takeWhile (· != sep)), String.ofList after)

/-- The pieces of a sequence of characters between its separators: one more than there are
separators. -/
def splitList (sep : Char) : List Char → List (List Char)
  | [] => [[]]
  | c :: rest =>
    if c = sep then [] :: splitList sep rest
    else
      match splitList sep rest with
      | [] => [[c]]
      | piece :: pieces => (c :: piece) :: pieces

/-- The pieces of `text` between its separators. -/
def split (sep : Char) (text : String) : List String :=
  (splitList sep text.toList).map String.ofList

/-- Whether `text` begins with `start`. -/
def startsWith (text start : String) : Bool :=
  start.toList.isPrefixOf text.toList

/-- What follows `start` in a text that begins with it. -/
def strip? (start text : String) : Option String :=
  if startsWith text start then
    some (String.ofList (text.toList.drop start.toList.length))
  else none

/-- Whether `part` occurs somewhere in a sequence of characters. -/
def occursIn (part : List Char) : List Char → Bool
  | [] => part.isPrefixOf []
  | c :: rest => part.isPrefixOf (c :: rest) || occursIn part rest

/-- Whether `text` contains `part` somewhere. -/
def contains (text part : String) : Bool :=
  occursIn part.toList text.toList

/-! ### Two parts -/

/-- A text is cut at its first separator. -/
theorem cut?_eq_some_iff {sep : Char} {text before after : String} :
    cut? sep text = some (before, after) ↔
      text.toList = before.toList ++ sep :: after.toList ∧ sep ∉ before.toList := by
  constructor
  · intro h
    rw [cut?] at h
    split at h
    · cases h
    · next c rest hdrop =>
      obtain ⟨rfl, rfl⟩ := Prod.mk.inj (Option.some.inj h)
      obtain rfl : c = sep := by
        have hfirst := List.head?_dropWhile_not (· != sep) text.toList
        rw [hdrop] at hfirst
        exact bne_eq_false_iff_eq.1 hfirst
      constructor
      · rw [String.toList_ofList, String.toList_ofList, ← hdrop]
        exact List.takeWhile_append_dropWhile.symm
      · rw [String.toList_ofList]
        intro hmem
        have hne := List.all_eq_true.1 List.all_takeWhile _ hmem
        simp at hne
  · rintro ⟨htext, hsep⟩
    have hbefore : ∀ c ∈ before.toList, (c != sep) = true := fun c hc =>
      bne_iff_ne.2 fun heq => hsep (heq ▸ hc)
    rw [cut?, htext, List.dropWhile_append_of_pos hbefore, List.takeWhile_append_of_pos hbefore]
    simp

/-- Only a text without a separator is not cut. -/
theorem not_mem_of_cut?_eq_none {sep : Char} {text : String} (h : cut? sep text = none) :
    sep ∉ text.toList := by
  rw [cut?] at h
  split at h
  next hdrop =>
    -- nothing is left behind the characters in front of the first separator
    have hall : text.toList.takeWhile (· != sep) = text.toList := by
      simpa [hdrop] using List.takeWhile_append_dropWhile (p := (· != sep)) (l := text.toList)
    intro hmem
    rw [← hall] at hmem
    have hne := List.all_eq_true.1 List.all_takeWhile _ hmem
    simp at hne
  next => contradiction

/-! ### Splitting -/

theorem splitList_eq_splitOn (sep : Char) (l : List Char) : splitList sep l = l.splitOn sep := by
  induction l with
  | nil => rfl
  | cons c rest ih =>
    rw [splitList, List.splitOn_cons_eq_if_modifyHead, ih]
    by_cases hc : c = sep
    · simp [hc]
    · cases hrest : rest.splitOn sep with
      | nil => exact absurd hrest (List.splitOn_ne_nil sep rest)
      | cons piece pieces => simp [hc]

theorem not_mem_of_mem_splitList {sep : Char} {l piece : List Char}
    (h : piece ∈ splitList sep l) : sep ∉ piece := by
  induction l generalizing piece with
  | nil =>
    obtain rfl := List.mem_singleton.1 h
    exact List.not_mem_nil
  | cons c rest ih =>
    rw [splitList] at h
    split at h
    · obtain rfl | h := List.mem_cons.1 h
      · exact List.not_mem_nil
      · exact ih h
    · next hc =>
      have hc : sep ≠ c := fun heq => hc heq.symm
      split at h
      · obtain rfl := List.mem_singleton.1 h
        simpa using hc
      · next first pieces hrest =>
        obtain rfl | h := List.mem_cons.1 h
        · exact List.not_mem_cons_of_ne_of_not_mem hc (ih (hrest ▸ List.mem_cons_self))
        · exact ih (hrest ▸ List.mem_cons_of_mem _ h)

theorem map_toList_split (sep : Char) (text : String) :
    (split sep text).map String.toList = text.toList.splitOn sep := by
  simp [split, splitList_eq_splitOn, Function.comp_def]

theorem split_ne_nil (sep : Char) (text : String) : split sep text ≠ [] := by
  simp [split, splitList_eq_splitOn]

theorem not_mem_of_mem_split {sep : Char} {text piece : String} (h : piece ∈ split sep text) :
    sep ∉ piece.toList := by
  obtain ⟨chars, hchars, rfl⟩ := List.mem_map.1 h
  rw [String.toList_ofList]
  exact not_mem_of_mem_splitList hchars

/-- Pieces around separators are what the text splits into. -/
theorem split_intercalate {sep : Char} {pieces : List String}
    (h : ∀ piece ∈ pieces, sep ∉ piece.toList) (hne : pieces ≠ []) :
    split sep ((String.singleton sep).intercalate pieces) = pieces := by
  have hpieces : ∀ chars ∈ pieces.map String.toList, sep ∉ chars :=
    List.forall_mem_map.2 h
  rw [split, splitList_eq_splitOn, String.toList_intercalate, String.toList_singleton,
    List.splitOn_intercalate sep hpieces (by simpa using hne)]
  simp [Function.comp_def]

/-- A text is its pieces around separators. -/
theorem intercalate_split (sep : Char) (text : String) :
    (String.singleton sep).intercalate (split sep text) = text := by
  rw [← String.toList_inj, String.toList_intercalate, String.toList_singleton, map_toList_split,
    List.intercalate_splitOn]

theorem split_append (sep : Char) (text rest : String) :
    split sep (text ++ String.singleton sep ++ rest) = split sep text ++ split sep rest := by
  simp [split, splitList_eq_splitOn, List.splitOn_append_cons_self]

/-! ### Beginnings -/

/-- A text begins with another one when its characters do. -/
theorem startsWith_iff_toList {text start : String} :
    startsWith text start = true ↔ start.toList <+: text.toList :=
  List.isPrefixOf_iff_prefix

theorem startsWith_iff {text start : String} :
    startsWith text start = true ↔ ∃ rest, start ++ rest = text := by
  rw [startsWith_iff_toList]
  constructor
  · rintro ⟨rest, hrest⟩
    exact ⟨String.ofList rest, by simp [← String.toList_inj, hrest]⟩
  · rintro ⟨rest, rfl⟩
    exact ⟨rest.toList, String.toList_append.symm⟩

theorem strip?_append (start rest : String) : strip? start (start ++ rest) = some rest := by
  rw [strip?, if_pos (startsWith_iff.2 ⟨rest, rfl⟩)]
  simp

theorem strip?_eq_none_iff {start text : String} :
    strip? start text = none ↔ startsWith text start = false := by
  simp [strip?]

end RegistryBench.Text
