import RegistryBench.Proofs.ControlPlane.FilledReferences
import RegistryBench.Proofs.ControlPlane.Transcript

/-!
# Versions of an image

Two requests offer images to be stored: that to create an image, and a mapping, which carries one.
An offer is taken when no image of the name is stored, and then its manifests are filled in. One
request replaces a stored image, as it is. What is stored under a name is therefore the image that
has replaced it last or, when nothing has, the first that was offered (`getImage_after`).
-/

namespace RegistryBench

namespace Store

/-- The image of some name is found when it is stored. -/
theorem getImage_eq_ok_iff {store : Store} {name : String} {image : Image} :
    store.getImage name = .ok image ↔ store.image? name = some image := by
  rw [getImage]
  cases store.image? name with
  | none => simp
  | some stored => simp

/-- The image of some name is not found when it is not stored. -/
theorem getImage_eq_notFound_iff {store : Store} {name : String} :
    store.getImage name = .error (.notFound .image name) ↔ store.image? name = none := by
  rw [getImage]
  cases store.image? name with
  | none => simp
  | some stored => simp

/-- Keeping an image stores it where none of its name is. -/
theorem image?_writeAll_keep (store : Store) (image : Image) (name : String) :
    (store.writeAll (store.keep image)).image? name =
      (store.image? name).or (if image.name = name then some image else none) := by
  rw [keep]
  by_cases hstored : image.name ∈ store.images
  · obtain ⟨stored, himage⟩ := (store.mem_images_iff image.name).1 hstored
    rw [if_pos hstored, writeAll_nil]
    by_cases hname : image.name = name
    · rw [← hname, himage, Option.some_or]
    · rw [if_neg hname, Option.or_none]
  · rw [if_neg hstored, writeAll_cons, writeAll_nil, write_image, image?_putImage]
    by_cases hname : image.name = name
    · -- nothing is stored under the name of a new image
      have hnone : store.image? name = none := by
        rw [← hname, Option.eq_none_iff_forall_ne_some]
        exact fun stored himage => hstored ((store.mem_images_iff _).2 ⟨stored, himage⟩)
      rw [hnone, Option.none_or, if_pos hname]
    · rw [if_neg hname, if_neg hname, Option.or_none]

end Store

namespace ControlPlane

namespace Request

/-- The image that a request offers to be stored. -/
def offer? : Request → Option Image
  | .createImage image => some image
  | .createMapping _ mapping => some mapping.image
  | _ => none

/-- The image that a request puts in the place of the stored one of its name. -/
def replacement? : Request → Option Image
  | .updateImage image => some image
  | _ => none

end Request

/-- The manifests of an image that is offered by a request which is served can be filled in. -/
theorem expand_of_offer? {now : Timestamp} {store : Store} {request : Request} {outcome : Outcome}
    (hok : (request.effect now store).1 = .ok outcome) {image : Image}
    (hoffer : request.offer? = some image) : ∃ expanded, image.expand = .ok expanded := by
  cases request with
  | createImage offered =>
    obtain rfl := Option.some.inj hoffer
    simp only [Request.effect] at hok
    split at hok
    next => contradiction
    next expanded hexpand => exact ⟨expanded, hexpand⟩
  | createMapping ns mapping =>
    obtain rfl := Option.some.inj hoffer
    simp only [Request.effect] at hok
    split at hok
    next => contradiction
    next => contradiction
    next stream expanded _ hexpand => exact ⟨expanded, hexpand⟩
  | _ => contradiction

/-- Only a stored image is replaced by a request which is served. -/
theorem stored_of_replacement? {now : Timestamp} {store : Store} {request : Request}
    {outcome : Outcome} (hok : (request.effect now store).1 = .ok outcome) {image : Image}
    (hreplacement : request.replacement? = some image) : store.image? image.name ≠ none := by
  cases request with
  | updateImage replacement =>
    obtain rfl := Option.some.inj hreplacement
    simp only [Request.effect] at hok
    split at hok
    next hstored =>
      obtain ⟨stored, hstored⟩ := (store.mem_images_iff replacement.name).1 hstored
      exact hstored ▸ Option.some_ne_none stored
    next => contradiction
  | _ => contradiction

/-- What a request that is served leaves stored under a name: the image that it puts there, or
else what was stored, or else the image that it offers, with its manifests filled in. -/
theorem image?_of_served {now : Timestamp} {store : Store} {request : Request} {outcome : Outcome}
    (hok : (request.effect now store).1 = .ok outcome) (name : String) :
    (store.writeAll (request.effect now store).2).image? name =
      (request.replacement?.filter (·.name = name)).or
        ((store.image? name).or
          ((request.offer?.filter (·.name = name)).bind (·.expand.toOption))) := by
  cases request with
  | createImage image =>
    obtain ⟨expanded, hexpand⟩ := expand_of_offer? hok rfl
    have hname : expanded.name = image.name := Image.name_of_expand hexpand
    simp only [Request.effect, hexpand] at hok ⊢
    split at hok
    next => contradiction
    next hnew =>
      -- a new image is written just as an image is kept
      have hkeep : store.keep expanded = [.image expanded] := if_neg hnew
      rw [if_neg hnew, ← hkeep, Store.image?_writeAll_keep, hname]
      by_cases h : image.name = name
      · simp [Request.replacement?, Request.offer?, Option.filter, h, hexpand, Except.toOption]
      · simp [Request.replacement?, Request.offer?, Option.filter, h]
  | updateImage image =>
    simp only [Request.effect] at hok ⊢
    split at hok
    next hstored =>
      rw [if_pos hstored, Store.writeAll_cons, Store.writeAll_nil, Store.write_image,
        Store.image?_putImage]
      by_cases h : image.name = name
      · simp [Request.replacement?, Request.offer?, Option.filter, h]
      · simp [Request.replacement?, Request.offer?, Option.filter, h]
    next => contradiction
  | createStream stream =>
    simp only [Request.effect]
    split
    · simp [Request.replacement?, Request.offer?]
    · simp [Request.replacement?, Request.offer?]
  | updateStream stream =>
    simp only [Request.effect]
    split
    · simp [Request.replacement?, Request.offer?]
    · simp [Request.replacement?, Request.offer?]
  | createMapping ns mapping =>
    obtain ⟨expanded, hexpand⟩ := expand_of_offer? hok rfl
    have hname : expanded.name = mapping.image.name := Image.name_of_expand hexpand
    simp only [Request.effect, hexpand] at hok ⊢
    split at hok
    next => contradiction
    next h => cases h
    next stream image hstream himage =>
      obtain rfl := Except.ok.inj himage
      rw [Store.writeAll_cons, Store.write_stream, Store.image?_putStream,
        Store.image?_writeAll_keep, hname]
      by_cases h : mapping.image.name = name
      · simp [Request.replacement?, Request.offer?, Option.filter, h, hexpand, Except.toOption]
      · simp [Request.replacement?, Request.offer?, Option.filter, h]
  | createTag ns request =>
    simp only [Request.effect]
    split
    · simp [Request.replacement?, Request.offer?]
    · split
      · simp [Request.replacement?, Request.offer?]
      · simp [Request.replacement?, Request.offer?]
  | look answer => simp [Request.effect, Request.replacement?, Request.offer?]

namespace Exchange

/-- The image of some name that an exchange has offered to be stored. -/
def offer? (name : String) (exchange : Exchange) : Option Image :=
  (exchange.served?.bind Request.offer?).filter (·.name = name)

/-- The image of some name that an exchange has put in the place of the stored one. -/
def replacement? (name : String) (exchange : Exchange) : Option Image :=
  (exchange.served?.bind Request.replacement?).filter (·.name = name)

end Exchange

/-- The images of some name that were offered to be stored, oldest first. -/
def offers (name : String) (transcript : List Exchange) : List Image :=
  transcript.filterMap (Exchange.offer? name)

/-- The images of some name that have replaced a stored one, oldest first. -/
def replacements (name : String) (transcript : List Exchange) : List Image :=
  transcript.filterMap (Exchange.replacement? name)

/-- One more exchange offers one more image at most. -/
theorem offers_concat (name : String) (transcript : List Exchange) (exchange : Exchange) :
    offers name (transcript ++ [exchange]) =
      offers name transcript ++ (exchange.offer? name).toList :=
  filterMap_concat _ _ _

/-- One more exchange replaces an image at most once. -/
theorem replacements_concat (name : String) (transcript : List Exchange) (exchange : Exchange) :
    replacements name (transcript ++ [exchange]) =
      replacements name transcript ++ (exchange.replacement? name).toList :=
  filterMap_concat _ _ _

/-- An optional value is the last of those that it makes. -/
theorem getLast?_toList {α : Type} (value : Option α) : value.toList.getLast? = value := by
  cases value with
  | none => rfl
  | some _ => rfl

/-- What a transcript says of the image of some name is what is stored. -/
structure Versioned (name : String) (transcript : List Exchange) (store : Store) : Prop where
  /-- An image that was not offered is not stored. -/
  absent : offers name transcript = [] → store.image? name = none
  /-- The manifests of the images that were offered can be filled in. -/
  expands : ∀ image ∈ offers name transcript, ∃ expanded, image.expand = .ok expanded
  /-- The image is the last that has replaced it, or else the first that was offered. -/
  image?_eq : store.image? name =
    (replacements name transcript).getLast?.or
      ((offers name transcript).head?.bind (·.expand.toOption))

/-- Before anything was done, no image was offered and none is stored. -/
theorem versioned_empty (name : String) : Versioned name [] .empty where
  absent _ := by simp [Store.empty, Store.image?]
  expands image hmem := absurd hmem List.not_mem_nil
  image?_eq := by simp [Store.empty, Store.image?, replacements, offers]

namespace Versioned

variable {name : String} {transcript : List Exchange} {store : Store}

/-- The first image that was offered has its manifests filled in. -/
theorem expand_head (h : Versioned name transcript store) {image : Image}
    (hfirst : (offers name transcript).head? = some image) :
    ∃ expanded, image.expand = .ok expanded :=
  h.expands image (List.mem_of_mem_head? hfirst)

/-- An image is stored exactly when it was offered. -/
theorem absent_iff (h : Versioned name transcript store) :
    store.image? name = none ↔ offers name transcript = [] := by
  refine ⟨fun hnone => ?_, h.absent⟩
  rw [h.image?_eq, Option.or_eq_none_iff] at hnone
  cases hfirst : (offers name transcript).head? with
  | none => exact List.head?_eq_none_iff.1 hfirst
  | some image =>
    obtain ⟨expanded, hexpand⟩ := h.expand_head hfirst
    simp [hfirst, hexpand, Except.toOption] at hnone

/-- A request that is served changes what is stored as the transcript then says. -/
theorem concat_of_effect (h : Versioned name transcript store) {now : Timestamp}
    {operation : Operation} {outcome : Outcome}
    (hok : (operation.request.effect now store).1 = .ok outcome) :
    Versioned name (transcript ++ [⟨now, operation, .ok outcome⟩])
      (store.writeAll (operation.request.effect now store).2) := by
  have hoffer : (Exchange.mk now operation (.ok outcome)).offer? name =
      operation.request.offer?.filter (·.name = name) := rfl
  have hreplacement : (Exchange.mk now operation (.ok outcome)).replacement? name =
      operation.request.replacement?.filter (·.name = name) := rfl
  refine ⟨fun hnone => ?_, fun image hmem => ?_, ?_⟩
  · rw [offers_concat, List.append_eq_nil_iff, hoffer, Option.toList_eq_nil_iff] at hnone
    -- the image is not stored, so it is not replaced either
    have hstored : store.image? name = none := h.absent hnone.1
    have hkept : operation.request.replacement?.filter (·.name = name) = none := by
      refine Option.filter_eq_none_iff.2 fun image himage hname => ?_
      rw [← of_decide_eq_true hname] at hstored
      exact stored_of_replacement? hok himage hstored
    rw [image?_of_served hok, hkept, hstored, hnone.2]
    rfl
  · rw [offers_concat, List.mem_append, hoffer, Option.mem_toList] at hmem
    obtain hmem | hmem := hmem
    · exact h.expands image hmem
    · exact expand_of_offer? hok (Option.eq_some_of_filter_eq_some hmem)
  · rw [image?_of_served hok, h.image?_eq, replacements_concat, offers_concat, hreplacement, hoffer,
      List.getLast?_append, List.head?_append, getLast?_toList, Option.head?_toList]
    -- what is stored for the first offer stays there when there are more
    cases hfirst : (offers name transcript).head? with
    | none => simp [Option.or_assoc]
    | some image =>
      obtain ⟨expanded, hexpand⟩ := h.expand_head hfirst
      simp [hexpand, Except.toOption]

end Versioned

/-- The transcript of a run says which version of an image is stored. -/
theorem versioned_after (operations : List (Timestamp × Operation)) (name : String) :
    Versioned name (empty.transcript operations) (empty.after operations).store := by
  refine after_induction (motive := Versioned name) (versioned_empty name) ?_ ?_ operations
  · intro transcript store now operation outcome _ ih hok
    exact ih.concat_of_effect hok
  · intro transcript store now operation e ih
    -- an operation that has failed neither offered nor replaced anything
    have hoffers : offers name (transcript ++ [⟨now, operation, .error e⟩]) =
        offers name transcript := (offers_concat _ _ _).trans (List.append_nil _)
    have hreplacements : replacements name (transcript ++ [⟨now, operation, .error e⟩]) =
        replacements name transcript := (replacements_concat _ _ _).trans (List.append_nil _)
    constructor
    · rw [hoffers]
      exact ih.absent
    · rw [hoffers]
      exact ih.expands
    · rw [hoffers, hreplacements]
      exact ih.image?_eq

/-- The images stored are left as they are by everything but offers of images that are not stored
yet, and replacements. -/
theorem image?_serve {c : ControlPlane} (hc : c.store.WellFormed) (now : Timestamp)
    (operation : Operation) (name : String) :
    let exchange : Exchange := ⟨now, operation, (c.serve (perform now operation)).1⟩
    exchange.replacement? name = none →
      (exchange.offer? name = none ∨ c.store.image? name ≠ none) →
        (c.serve (perform now operation)).2.store.image? name = c.store.image? name := by
  intro exchange hreplacement hoffer
  rw [store_serve hc]
  simp only [exchange, answer_serve hc] at hreplacement hoffer
  cases hanswer : (operation.request.effect now c.store).1 with
  | error e => rw [writes_of_error hanswer, Store.writeAll_nil]
  | ok outcome =>
    rw [hanswer] at hreplacement hoffer
    have hkept : operation.request.replacement?.filter (·.name = name) = none := hreplacement
    rw [image?_of_served hanswer, hkept, Option.none_or]
    -- nothing is offered, or what is stored already stays in front of what is offered
    rcases hoffer with hnone | hstored
    · have hnothing : operation.request.offer?.filter (·.name = name) = none := hnone
      rw [hnothing, Option.bind_none, Option.or_none]
    · obtain ⟨stored, hstored⟩ := Option.ne_none_iff_exists'.1 hstored
      rw [hstored, Option.some_or]

/-- Showing an image answers that it is not found exactly when none of the name was offered. The
image shown is the last that has replaced it, as it is, or else the first that was offered, with
its manifests filled in as `Image.Filled` says. Nothing but an offer of an image that is not stored
or a replacement changes what is shown. -/
theorem getImage_after (operations : List (Timestamp × Operation)) (name : String) :
    let c := empty.after operations
    let shown (c : ControlPlane) := (c.serve (getImage name)).1
    (shown c = .error (.notFound .image name) ↔
        offers name (empty.transcript operations) = []) ∧
      (∀ image, (replacements name (empty.transcript operations)).getLast? = some image →
        shown c = .ok image) ∧
      (∀ image, replacements name (empty.transcript operations) = [] →
        (offers name (empty.transcript operations)).head? = some image →
          ∃ expanded, image.Filled expanded ∧ shown c = .ok expanded) ∧
      ∀ now operation,
        let exchange : Exchange := ⟨now, operation, (c.serve (perform now operation)).1⟩
        exchange.replacement? name = none →
          (exchange.offer? name = none ∨ ∃ image, shown c = .ok image) →
            shown (c.serve (perform now operation)).2 = shown c := by
  intro c shown
  have hversioned := versioned_after operations name
  have hshown (c : ControlPlane) : shown c = c.store.getImage name :=
    congrArg Prod.fst (serve_lookingUp c _)
  refine ⟨?_, fun image hlast => ?_, fun image hnone hfirst => ?_, fun now operation => ?_⟩
  · rw [hshown, Store.getImage_eq_notFound_iff]
    exact hversioned.absent_iff
  · rw [hshown, Store.getImage_eq_ok_iff]
    exact hversioned.image?_eq.trans (by rw [hlast, Option.some_or])
  · -- the first offer was served, hence its references could be filled in
    obtain ⟨expanded, hexpand⟩ := hversioned.expand_head hfirst
    refine ⟨expanded, Image.expand_eq_ok_iff.1 hexpand, ?_⟩
    rw [hshown, Store.getImage_eq_ok_iff]
    refine hversioned.image?_eq.trans ?_
    rw [hnone, List.getLast?_nil, Option.none_or, hfirst, Option.bind_some, hexpand]
    rfl
  · intro exchange hreplacement hoffer
    -- an image that is shown is stored
    have hstored : exchange.offer? name = none ∨ c.store.image? name ≠ none := by
      refine hoffer.imp_right ?_
      rintro ⟨image, himage⟩
      rw [hshown, Store.getImage_eq_ok_iff] at himage
      exact himage ▸ Option.some_ne_none image
    have hsame := image?_serve (wellFormed_after operations) now operation name hreplacement hstored
    rw [hshown, hshown, Store.getImage, Store.getImage, hsame]

section Revised

/-- An image without a payload that can be pulled from some place. -/
def imageAt (name reference : String) : Image :=
  { metadata := { name }, reference }

/-- An image is stored, offered again by a mapping, and replaced. Another one is stored by a
mapping, and a third is only embedded in a new tag. An index with a wrong reference is mapped, and
cannot be created after that. -/
def revised : List (Timestamp × Operation) :=
  let mapping (image : Image) : ImageStreamMapping :=
    { metadata := .named "test" "app", image, tag := "latest" }
  [(⟨0, 0⟩, .createStream (.empty "test" "app")),
    (⟨1, 0⟩, .createImage (imageAt "one" "first")),
    (⟨2, 0⟩, .createMapping "test" (mapping (imageAt "one" "second"))),
    (⟨3, 0⟩, .updateImage (imageAt "one" "third")),
    (⟨4, 0⟩, .createMapping "test" (mapping (imageAt "two" "first"))),
    (⟨5, 0⟩, .createTag "test"
      { metadata := .named "test" "app:stable", tag := none, image := imageAt "three" "first" }),
    (⟨6, 0⟩, .createMapping "test" (mapping (indexWith [⟨"other", "type", 1, "", ""⟩]))),
    (⟨7, 0⟩, .createImage (indexWith []))]

set_option maxRecDepth 10000 in
/-- The first image is shown as it has replaced the stored one, the second as it was mapped, and
the third is not found. The index is shown with the reference that its payload has. Another new tag
leaves the first image as it is. -/
theorem getImage_after_revised :
    let shown (c : ControlPlane) (name : String) := (c.serve (getImage name)).1
    let newTag := Operation.createTag "test"
      { metadata := .named "test" "app:next", tag := none, image := imageAt "one" "fourth" }
    shown (empty.after revised) "one" = .ok (imageAt "one" "third") ∧
      shown (empty.after revised) "two" = .ok (imageAt "two" "first") ∧
      shown (empty.after revised) "three" = .error (.notFound .image "three") ∧
      shown (empty.after revised) "index" = .ok (indexWith [⟨"digest", "type", 3, "", ""⟩]) ∧
      shown ((empty.after revised).serve (perform ⟨8, 0⟩ newTag)).2 "one" =
        .ok (imageAt "one" "third") := by
  intro shown newTag
  obtain ⟨-, hreplaced, -, hframe⟩ := getImage_after revised "one"
  obtain ⟨-, -, hoffered, -⟩ := getImage_after revised "two"
  obtain ⟨habsent, -⟩ := getImage_after revised "three"
  obtain ⟨-, -, hfilled, -⟩ := getImage_after revised "index"
  have hone : shown (empty.after revised) "one" = .ok (imageAt "one" "third") :=
    hreplaced (imageAt "one" "third") rfl
  obtain ⟨plain, hplain, htwo⟩ := hoffered (imageAt "two" "first") rfl rfl
  obtain rfl : plain = imageAt "two" "first" := hplain.unique (.plain rfl)
  obtain ⟨index, hindex, hshown⟩ := hfilled (indexWith [⟨"other", "type", 1, "", ""⟩]) rfl rfl
  obtain rfl := hindex.unique (filled_indexWith _)
  refine ⟨hone, htwo, habsent.2 rfl, hshown, ?_⟩
  exact (hframe ⟨8, 0⟩ newTag rfl (Or.inl rfl)).trans hone

end Revised

end ControlPlane

end RegistryBench
