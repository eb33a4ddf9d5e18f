import RegistryBench.Text.Cut

/-!
# Composite names

A tag of a stream is named `stream:tag`, an image seen through a stream `stream@id`. Splitting a
name gives its two halves back when neither is empty; a tag name has exactly one colon, while the
id of an image may hold further `@` signs (`splitTag?_eq_some_iff`, `splitImage?_eq_some_iff`).
-/

namespace RegistryBench.Name

/-- The name of a tag of a stream. -/
def joinTag (stream tag : String) : String :=
  stream ++ ":" ++ tag

/-- The name of an image seen through a stream. -/
def joinImage (stream id : String) : String :=
  stream ++ "@" ++ id

/-- The stream and the tag that a name joins. -/
def splitTag? (name : String) : Option (String × String) :=
  match Text.cut? ':' name with
  | some (stream, tag) =>
    if stream.toList ≠ [] ∧ tag.toList ≠ [] ∧ ':' ∉ tag.toList then some (stream, tag) else none
  | none => none

/-- The stream and the image id that a name joins. -/
def splitImage? (name : String) : Option (String × String) :=
  match Text.cut? '@' name with
  | some (stream, id) =>
    if stream.toList ≠ [] ∧ id.toList ≠ [] then some (stream, id) else none
  | none => none

/-- A name that joins a stream and an id is split into them, since the name of a stream has no
`@` sign. -/
theorem splitImage?_joinImage {stream id : String} (hstream : stream ≠ "")
    (hat : '@' ∉ stream.toList) (hid : id ≠ "") :
    splitImage? (joinImage stream id) = some (stream, id) := by
  have hcut : Text.cut? '@' (joinImage stream id) = some (stream, id) := by
    rw [Text.cut?_eq_some_iff]
    exact ⟨by simp [joinImage], hat⟩
  rw [splitImage?, hcut]
  exact if_pos ⟨mt String.toList_eq_nil_iff.1 hstream, mt String.toList_eq_nil_iff.1 hid⟩

/-- A name is split into a stream and an id when it joins them. -/
theorem splitImage?_eq_some_iff {name stream id : String} :
    splitImage? name = some (stream, id) ↔
      name = joinImage stream id ∧ stream ≠ "" ∧ '@' ∉ stream.toList ∧ id ≠ "" := by
  constructor
  · intro h
    rw [splitImage?] at h
    split at h
    next before after hcut =>
      split at h
      next hhalves =>
        obtain ⟨rfl, rfl⟩ := Prod.mk.inj (Option.some.inj h)
        obtain ⟨htext, hat⟩ := Text.cut?_eq_some_iff.1 hcut
        refine ⟨?_, mt String.toList_eq_nil_iff.2 hhalves.1, hat,
          mt String.toList_eq_nil_iff.2 hhalves.2⟩
        rw [← String.toList_inj, htext]
        simp [joinImage]
      next => contradiction
    next => contradiction
  · rintro ⟨rfl, hstream, hat, hid⟩
    exact splitImage?_joinImage hstream hat hid

/-- A name joins a stream and a tag: it has exactly one colon, with text on both sides. -/
def JoinsTag (name stream tag : String) : Prop :=
  name = joinTag stream tag ∧ name.toList.count ':' = 1 ∧ stream ≠ "" ∧ tag ≠ ""

instance (name stream tag : String) : Decidable (JoinsTag name stream tag) :=
  inferInstanceAs (Decidable
    (name = joinTag stream tag ∧ name.toList.count ':' = 1 ∧ stream ≠ "" ∧ tag ≠ ""))

/-- The colon that joins a stream and a tag is the only one when neither of them has one. -/
theorem count_joinTag_eq_one_iff (stream tag : String) :
    (joinTag stream tag).toList.count ':' = 1 ↔ ':' ∉ stream.toList ∧ ':' ∉ tag.toList := by
  have hcount : (joinTag stream tag).toList.count ':' =
      stream.toList.count ':' + (tag.toList.count ':' + 1) := by
    simp [joinTag]
  rw [hcount, ← List.count_eq_zero, ← List.count_eq_zero]
  omega

/-- A name is split into a stream and a tag when it joins them. -/
theorem splitTag?_eq_some_iff {name stream tag : String} :
    splitTag? name = some (stream, tag) ↔ JoinsTag name stream tag := by
  constructor
  · intro h
    rw [splitTag?] at h
    split at h
    next before after hcut =>
      split at h
      next hhalves =>
        obtain ⟨rfl, rfl⟩ := Prod.mk.inj (Option.some.inj h)
        obtain ⟨htext, hcolon⟩ := Text.cut?_eq_some_iff.1 hcut
        obtain rfl : name = joinTag before after := by
          rw [← String.toList_inj, htext]
          simp [joinTag]
        exact ⟨rfl, (count_joinTag_eq_one_iff before after).2 ⟨hcolon, hhalves.2.2⟩,
          mt String.toList_eq_nil_iff.2 hhalves.1, mt String.toList_eq_nil_iff.2 hhalves.2.1⟩
      next => contradiction
    next => contradiction
  · rintro ⟨rfl, hcount, hstream, htag⟩
    obtain ⟨hbefore, hafter⟩ := (count_joinTag_eq_one_iff stream tag).1 hcount
    have hcut : Text.cut? ':' (joinTag stream tag) = some (stream, tag) := by
      rw [Text.cut?_eq_some_iff]
      exact ⟨by simp [joinTag], hbefore⟩
    rw [splitTag?, hcut]
    exact if_pos ⟨mt String.toList_eq_nil_iff.1 hstream, mt String.toList_eq_nil_iff.1 htag, hafter⟩

end RegistryBench.Name
