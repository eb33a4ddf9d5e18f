import RegistryBench.Resource.Name

/-!
# Splitting and joining names

Splitting undoes joining for just those halves that leave no doubt where the name was joined: of a
tag name neither half may hold a colon, while the name of an image seen through a stream is cut at
its first `@` sign, so that only the stream may not hold one. Main result: `split_join_exact`.
-/

namespace RegistryBench.Name

/-- The names that are split into a stream and a tag. -/
theorem isSome_splitTag?_iff (name : String) :
    (splitTag? name).isSome ↔ name.toList.count ':' = 1 ∧
      ∃ before after, name = before ++ ":" ++ after ∧ before ≠ "" ∧ after ≠ "" := by
  rw [Option.isSome_iff_exists]
  constructor
  · rintro ⟨⟨stream, tag⟩, h⟩
    obtain ⟨hname, hcount, hstream, htag⟩ := splitTag?_eq_some_iff.1 h
    exact ⟨hcount, stream, tag, hname, hstream, htag⟩
  · rintro ⟨hcount, stream, tag, hname, hstream, htag⟩
    exact ⟨(stream, tag), splitTag?_eq_some_iff.2 ⟨hname, hcount, hstream, htag⟩⟩

/-- The names that are split into a stream and an image id. -/
theorem isSome_splitImage?_iff (name : String) :
    (splitImage? name).isSome ↔
      ∃ before after, name = before ++ "@" ++ after ∧ '@' ∉ before.toList ∧
        before ≠ "" ∧ after ≠ "" := by
  rw [Option.isSome_iff_exists]
  constructor
  · rintro ⟨⟨stream, id⟩, h⟩
    obtain ⟨hname, hstream, hat, hid⟩ := splitImage?_eq_some_iff.1 h
    exact ⟨stream, id, hname, hat, hstream, hid⟩
  · rintro ⟨stream, id, hname, hat, hstream, hid⟩
    exact ⟨(stream, id), splitImage?_eq_some_iff.2 ⟨hname, hstream, hat, hid⟩⟩

/-- A stream and a tag are found again when neither of them has a colon. -/
theorem splitTag?_joinTag_eq_iff (stream tag : String) :
    splitTag? (joinTag stream tag) = some (stream, tag) ↔
      (stream ≠ "" ∧ ':' ∉ stream.toList) ∧ tag ≠ "" ∧ ':' ∉ tag.toList := by
  rw [splitTag?_eq_some_iff, JoinsTag, count_joinTag_eq_one_iff]
  constructor
  · rintro ⟨-, ⟨hstreamColon, htagColon⟩, hstream, htag⟩
    exact ⟨⟨hstream, hstreamColon⟩, htag, htagColon⟩
  · rintro ⟨⟨hstream, hstreamColon⟩, htag, htagColon⟩
    exact ⟨rfl, ⟨hstreamColon, htagColon⟩, hstream, htag⟩

/-- A stream and an image id are found again when the stream has no `@` sign. -/
theorem splitImage?_joinImage_eq_iff (stream id : String) :
    splitImage? (joinImage stream id) = some (stream, id) ↔
      (stream ≠ "" ∧ '@' ∉ stream.toList) ∧ id ≠ "" := by
  rw [splitImage?_eq_some_iff, and_assoc]
  exact and_iff_right rfl

/-- A name is split into a stream and a tag when it has exactly one colon, with text on both sides
of it, and into a stream and an image id when it has text in front of its first `@` sign and behind
it. Joining what a name was split into gives the name back. Splitting what was joined gives the
halves back when they are not empty and have no separator; only an image id may hold one. -/
theorem split_join_exact (name stream rest : String) :
    ((splitTag? name).isSome ↔ name.toList.count ':' = 1 ∧
        ∃ before after, name = before ++ ":" ++ after ∧ before ≠ "" ∧ after ≠ "") ∧
      ((splitImage? name).isSome ↔
        ∃ before after, name = before ++ "@" ++ after ∧ '@' ∉ before.toList ∧
          before ≠ "" ∧ after ≠ "") ∧
      (∀ before after, splitTag? name = some (before, after) → joinTag before after = name) ∧
      (∀ before after, splitImage? name = some (before, after) → joinImage before after = name) ∧
      (splitTag? (joinTag stream rest) = some (stream, rest) ↔
        (stream ≠ "" ∧ ':' ∉ stream.toList) ∧ rest ≠ "" ∧ ':' ∉ rest.toList) ∧
      (splitImage? (joinImage stream rest) = some (stream, rest) ↔
        (stream ≠ "" ∧ '@' ∉ stream.toList) ∧ rest ≠ "") := by
  refine ⟨isSome_splitTag?_iff name, isSome_splitImage?_iff name, fun before after h => ?_,
    fun before after h => ?_, splitTag?_joinTag_eq_iff stream rest,
    splitImage?_joinImage_eq_iff stream rest⟩
  · exact (splitTag?_eq_some_iff.1 h).1.symm
  · exact (splitImage?_eq_some_iff.1 h).1.symm

/-- The first `@` sign ends the stream, and a later one belongs to the id. A second colon makes a
name none of a tag. -/
theorem split_join_exact_repeated :
    splitTag? "app:v1" = some ("app", "v1") ∧ joinTag "app" "v1" = "app:v1" ∧
      splitImage? "app@a@b" = some ("app", "a@b") ∧ joinImage "app" "a@b" = "app@a@b" ∧
      splitTag? (joinTag "app:v1" "v2") ≠ some ("app:v1", "v2") := by
  have htag : splitTag? "app:v1" = some ("app", "v1") := by decide +kernel
  have himage : splitImage? "app@a@b" = some ("app", "a@b") := by decide +kernel
  obtain ⟨-, -, hjoinTag, -, htwice, -⟩ := split_join_exact "app:v1" "app:v1" "v2"
  obtain ⟨-, -, -, hjoinImage, -⟩ := split_join_exact "app@a@b" "app" "a@b"
  refine ⟨htag, hjoinTag _ _ htag, himage, hjoinImage _ _ himage, fun h => ?_⟩
  exact (htwice.1 h).1.2 (by decide)

end RegistryBench.Name
