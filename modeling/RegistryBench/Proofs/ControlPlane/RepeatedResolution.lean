import RegistryBench.Proofs.ControlPlane.Listings
import RegistryBench.Proofs.ControlPlane.StreamViews

/-!
# Resolving an id twice

An id names an image in full, by its beginning, or by the beginning of its hash. Among images whose
names have one colon at most, as digests have, naming is transitive (`isNamedBy_trans`): an
abbreviation of a name that an id abbreviates is found by that id as well. So no image in front of
the one that an id resolves to is named by the name of that image, and resolving this name ends with
the same image (`findImage?_findImage?`). With more colons that fails, since a hash may then begin
with a whole name.

* `resolved_again`: an image that is seen through a stream is seen again, with the same answer,
  under the name that was answered.
-/

namespace RegistryBench

namespace ImageStream

/-- The hash is all of a name without a colon, and otherwise what stands behind the first colon. -/
theorem hashPart_cases (name : String) :
    (':' ∉ name.toList ∧ hashPart name = name) ∨
      ∃ algorithm : String, ':' ∉ algorithm.toList ∧
        name.toList = algorithm.toList ++ ':' :: (hashPart name).toList := by
  rw [hashPart]
  cases hcut : Text.cut? ':' name with
  | none => exact Or.inl ⟨Text.not_mem_of_cut?_eq_none hcut, rfl⟩
  | some halves =>
    obtain ⟨algorithm, hash⟩ := halves
    obtain ⟨htext, hcolon⟩ := Text.cut?_eq_some_iff.1 hcut
    exact Or.inr ⟨algorithm, hcolon, htext⟩

/-- A name has one colon at most, as digests have. -/
def PlainName (name : String) : Prop :=
  name.toList.count ':' ≤ 1

/-- Whether a name is plain is decidable. -/
instance (name : String) : Decidable (PlainName name) :=
  inferInstanceAs (Decidable (_ ≤ _))

/-- The colon of a plain name stands in front of its hash. -/
theorem PlainName.colon_not_mem_hashPart {name : String} (h : PlainName name) :
    ':' ∉ (hashPart name).toList := by
  obtain ⟨hnone, hhash⟩ | ⟨algorithm, -, htext⟩ := hashPart_cases name
  · rwa [hhash]
  · rw [PlainName, htext, List.count_append, List.count_cons_self] at h
    exact List.count_eq_zero.1 (by omega)

/-- What follows a name with a colon follows its hash. -/
theorem hashPart_begins {name longer : String} (hcolon : ':' ∈ name.toList)
    (h : name.toList <+: longer.toList) : (hashPart name).toList <+: (hashPart longer).toList := by
  obtain ⟨hnone, -⟩ | ⟨algorithm, halgorithm, htext⟩ := hashPart_cases name
  · exact absurd hcolon hnone
  · obtain ⟨rest, hrest⟩ := h
    -- both names have their first colon behind the same algorithm
    have hcut : Text.cut? ':' longer =
        some (algorithm, String.ofList ((hashPart name).toList ++ rest)) := by
      rw [Text.cut?_eq_some_iff]
      refine ⟨?_, halgorithm⟩
      rw [← hrest, htext]
      simp
    refine ⟨rest, ?_⟩
    rw [hashPart.eq_def longer, hcut]
    simp

/-- An id names an image in full, or abbreviates its name or its hash. -/
theorem isNamedBy_iff {image id : String} :
    isNamedBy image id = true ↔
      image = id ∨ mayAbbreviate id = true ∧
        (id.toList <+: image.toList ∨ id.toList <+: (hashPart image).toList) := by
  rw [isNamedBy, Bool.or_eq_true, Bool.and_eq_true, Bool.or_eq_true, beq_iff_eq,
    Text.startsWith_iff_toList, Text.startsWith_iff_toList]

/-- An id that abbreviates a name abbreviates what that name abbreviates. -/
theorem isNamedBy_of_begins {outer image id : String} (hid : mayAbbreviate id = true)
    (hbegins : id.toList <+: image.toList) (houter : isNamedBy outer image = true) :
    isNamedBy outer id = true := by
  obtain rfl | ⟨-, hstart | hstart⟩ := isNamedBy_iff.1 houter
  · exact isNamedBy_iff.2 (Or.inr ⟨hid, Or.inl hbegins⟩)
  · exact isNamedBy_iff.2 (Or.inr ⟨hid, Or.inl (hbegins.trans hstart)⟩)
  · exact isNamedBy_iff.2 (Or.inr ⟨hid, Or.inr (hbegins.trans hstart)⟩)

/-- What is named by the name of an image is named by every id of that image. -/
theorem isNamedBy_trans {outer image id : String} (hplain : PlainName outer)
    (houter : isNamedBy outer image = true) (himage : isNamedBy image id = true) :
    isNamedBy outer id = true := by
  obtain rfl | ⟨hid, hstart | hhash⟩ := isNamedBy_iff.1 himage
  · exact houter
  · exact isNamedBy_of_begins hid hstart houter
  · -- the id abbreviates the hash, which is the whole name when that has no colon
    obtain ⟨-, hwhole⟩ | ⟨algorithm, -, htext⟩ := hashPart_cases image
    · rw [hwhole] at hhash
      exact isNamedBy_of_begins hid hhash houter
    · have hcolon : ':' ∈ image.toList := by
        rw [htext]
        exact List.mem_append_right _ List.mem_cons_self
      obtain rfl | ⟨-, hstart | hstart⟩ := isNamedBy_iff.1 houter
      · exact himage
      · -- the outer name goes on behind the hash of the image
        exact isNamedBy_iff.2 (Or.inr ⟨hid, Or.inr (hhash.trans (hashPart_begins hcolon hstart))⟩)
      · -- the hash of a plain name does not begin with a name that has a colon
        exact absurd (hstart.subset hcolon) hplain.colon_not_mem_hashPart

/-- The images that tag events name have plain names. -/
def NamesPlainly (stream : ImageStream) : Prop :=
  ∀ image ∈ stream.referencedImages, PlainName image

/-- Whether a stream names its images plainly is decidable. -/
instance (stream : ImageStream) : Decidable stream.NamesPlainly :=
  inferInstanceAs (Decidable (∀ image ∈ stream.referencedImages, PlainName image))

/-- The name of the image that an id resolves to resolves to that image. -/
theorem findImage?_findImage? {stream : ImageStream} (hplain : stream.NamesPlainly)
    {id image : String} (h : stream.findImage? id = some image) :
    stream.findImage? image = some image := by
  rw [findImage?, List.find?_eq_some_iff_append] at h ⊢
  obtain ⟨himage, before, after, himages, hbefore⟩ := h
  refine ⟨isNamedBy_iff.2 (Or.inl rfl), before, after, himages, fun earlier hearlier => ?_⟩
  -- an image in front that the name names would have been found for the id
  have hmem : earlier ∈ stream.referencedImages := by
    rw [himages]
    exact List.mem_append_left _ hearlier
  cases hnamed : isNamedBy earlier image with
  | false => rfl
  | true =>
    have hfirst := hbefore earlier hearlier
    rw [isNamedBy_trans (hplain earlier hmem) hnamed himage] at hfirst
    contradiction

/-- Where names have two colons, one may be found for an id and another for its name. -/
example :
    let stream : ImageStream := { status := { tags := [⟨"latest",
      [.now ⟨0, 0⟩ "" "copy:sha256:abcdef", .now ⟨0, 0⟩ "" "sha256:abcdef"]⟩] } }
    stream.findImage? "abcdef" = some "sha256:abcdef" ∧
      stream.findImage? "sha256:abcdef" = some "copy:sha256:abcdef" := by
  decide +kernel

/-- Tag events without an image are passed over, so the images that ids resolve to have names. -/
theorem ne_empty_of_findImage? {stream : ImageStream} {id image : String}
    (h : stream.findImage? id = some image) : image ≠ "" := by
  have hmem := mem_referencedImages_of_findImage? h
  rw [referencedImages, List.mem_filter] at hmem
  exact of_decide_eq_true hmem.2

end ImageStream

namespace Store

/-- What is found on the way to an image that is seen through a stream. -/
theorem exists_of_getStreamImage {store : Store} {ns name : String} {answer : ImageStreamImage}
    (h : store.getStreamImage ns name = .ok answer) :
    ∃ streamName id stream image stored outcome derived,
      Name.splitImage? name = some (streamName, id) ∧
        store.streams[(⟨ns, streamName⟩ : StreamKey)]? = some stream ∧
        stream.findImage? id = some image ∧ store.image? image = some stored ∧
        stored.derive = (.ok outcome, derived) ∧
        answer = {
          metadata :=
            { name := Name.joinImage streamName image, ns, created := derived.metadata.created }
          image := { derived with manifest := "", config := "" } } := by
  rw [getStreamImage] at h
  -- each step may fail: splitting the name, the stream, the id, the image, and its metadata
  split at h
  next => contradiction
  next streamName id hsplit =>
    split at h
    next => contradiction
    next stream hstream =>
      split at h
      next => contradiction
      next image hfound =>
        split at h
        next => contradiction
        next stored hstored =>
          split at h
          next => contradiction
          next outcome derived hderive =>
            exact ⟨streamName, id, stream, image, stored, outcome, derived, hsplit,
              getStream_eq_ok_iff.1 hstream, hfound, getImage_eq_ok_iff.1 hstored, hderive,
              (Except.ok.inj h).symm⟩

/-- An image that was seen through a stream is seen under the name that was answered. -/
theorem getStreamImage_again {store : Store} {ns name : String} {answer : ImageStreamImage}
    (h : store.getStreamImage ns name = .ok answer)
    (hplain : ∀ streamName id stream, Name.splitImage? name = some (streamName, id) →
      store.streams[(⟨ns, streamName⟩ : StreamKey)]? = some stream → stream.NamesPlainly) :
    store.getStreamImage ns answer.metadata.name = .ok answer := by
  obtain ⟨streamName, id, stream, image, stored, outcome, derived, hsplit, hstream, hfound, hstored,
    hderive, rfl⟩ := exists_of_getStreamImage h
  obtain ⟨-, hname, hat, -⟩ := Name.splitImage?_eq_some_iff.1 hsplit
  -- the answered name splits into the same stream and the full name of the image
  have hagain : stream.findImage? image = some image :=
    ImageStream.findImage?_findImage? (hplain streamName id stream hsplit hstream) hfound
  exact getStreamImage_eq_ok hstream hname hat (ImageStream.ne_empty_of_findImage? hfound) hagain
    hstored hderive

end Store

namespace ControlPlane

/-- In a stream whose image names have one colon at most, the name of the image that an id resolves
to resolves to that image. So an image that is seen through such a stream is seen again under the
name that was answered, with the same answer. -/
theorem resolved_again :
    (∀ (stream : ImageStream) (id image : String), stream.NamesPlainly →
      stream.findImage? id = some image → stream.findImage? image = some image) ∧
    ∀ (operations : List (Timestamp × Operation)) (now later : Timestamp) (ns name : String)
      (answer : ImageStreamImage),
      let c := empty.after operations
      let resolved := c.serve (perform now (.getStreamImage ns name))
      resolved.1 = .ok (.streamImage answer) →
        (∀ streamName id stream, Name.splitImage? name = some (streamName, id) →
          c.store.streams[(⟨ns, streamName⟩ : StreamKey)]? = some stream → stream.NamesPlainly) →
          (resolved.2.serve (perform later (.getStreamImage ns answer.metadata.name))).1 =
            .ok (.streamImage answer) := by
  refine ⟨fun stream id image hplain => ImageStream.findImage?_findImage? hplain, ?_⟩
  intro operations now later ns name answer c resolved hresolved hplain
  have hc : c.store.WellFormed := wellFormed_after operations
  -- looking at an image leaves the store as it is
  have hsame : resolved.2.store = c.store := store_serve hc now (.getStreamImage ns name)
  have hanswer : resolved.1 = (c.store.getStreamImage ns name).map .streamImage :=
    answer_serve hc now (.getStreamImage ns name)
  obtain ⟨found, hfound, heq⟩ := map_eq_ok_iff.1 (hanswer.symm.trans hresolved)
  obtain rfl := Outcome.streamImage.inj heq
  rw [answer_serve (hsame ▸ hc) later, hsame]
  exact congrArg (Except.map Outcome.streamImage) (Store.getStreamImage_again hfound hplain)

section Extended

/-- A stream that names an image and then, by a longer name, another one. -/
def namingLonger : ImageStream :=
  { metadata := { name := "app", ns := "test", created := some ⟨0, 0⟩ }
    status := { tags := [⟨"latest", [.now ⟨0, 0⟩ "" "sha256:abcdef01", .now ⟨0, 0⟩ "" "",
      .now ⟨0, 0⟩ "" "sha256:abcdef"]⟩] } }

/-- The stream and the image of the longer name are stored. -/
def longerStored : List (Timestamp × Operation) :=
  [(⟨0, 0⟩, .createStream namingLonger), (⟨1, 0⟩, .createImage layeredImage)]

/-- The image of the longer name is found for the beginning of its hash, and again for its own
name. -/
theorem resolved_again_longer :
    let resolved (name : String) :=
      ((empty.after longerStored).serve (perform ⟨2, 0⟩ (.getStreamImage "test" name)))
    namingLonger.NamesPlainly ∧
      namingLonger.findImage? "abcdef" = some "sha256:abcdef01" ∧
      namingLonger.findImage? "sha256:abcdef01" = some "sha256:abcdef01" ∧
      ∃ answer, (resolved "app@abcdef").1 = .ok (.streamImage answer) ∧
        answer.metadata.name = "app@sha256:abcdef01" ∧
        ((resolved "app@abcdef").2.serve
          (perform ⟨3, 0⟩ (.getStreamImage "test" "app@sha256:abcdef01"))).1 =
            .ok (.streamImage answer) := by
  intro resolved
  have hplain : namingLonger.NamesPlainly := by decide +kernel
  have hfound : namingLonger.findImage? "abcdef" = some "sha256:abcdef01" := by decide +kernel
  have hanswer : (resolved "app@abcdef").1 = .ok (.streamImage
      { metadata := .named "test" "app@sha256:abcdef01", image := layeredImage }) := by
    rfl
  have hnamed (streamName id : String) (stream : ImageStream)
      (hsplit : Name.splitImage? "app@abcdef" = some (streamName, id))
      (hstream : (empty.after longerStored).store.streams[(⟨"test", streamName⟩ : StreamKey)]? =
        some stream) : stream.NamesPlainly := by
    have hname : Name.splitImage? "app@abcdef" = some ("app", "abcdef") := by decide +kernel
    obtain ⟨rfl, rfl⟩ := Prod.mk.inj (Option.some.inj (hname.symm.trans hsplit))
    have hstored : (empty.after longerStored).store.streams[(⟨"test", "app"⟩ : StreamKey)]? =
        some namingLonger := by
      decide +kernel
    exact Option.some.inj (hstored.symm.trans hstream) ▸ hplain
  have hagain := resolved_again.2 longerStored ⟨2, 0⟩ ⟨3, 0⟩ "test" "app@abcdef" _ hanswer hnamed
  refine ⟨hplain, hfound, ?_, _, hanswer, ?_, ?_⟩
  · exact resolved_again.1 _ _ _ hplain hfound
  · rfl
  · exact hagain

end Extended

end ControlPlane

end RegistryBench
