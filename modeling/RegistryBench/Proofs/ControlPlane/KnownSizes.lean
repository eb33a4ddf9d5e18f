import RegistryBench.Proofs.ControlPlane.ReferenceGraph

/-!
# The sizes that a layers view knows

A layers view knows the size of every layer, and of no manifest. The size of a config is that of its
payload, and the images that share a config need not all carry it. Each of them writes what it knows
in place of what was known, so the size is known just when the last of them carries the payload
(`isSome_size?_iff`). This is said for views in which no digest is one of two kinds (`KindsApart`).

* `known_sizes_kept_iff`: adding ids to a view keeps all blobs, and keeps the size of a blob known
  just when the last image with that config, if it is one, carries the payload.
* `known_size_lost`: one more image takes away the size of a config.
-/

namespace RegistryBench

namespace Text

/-- Only the empty text has no octets. -/
theorem length_utf8_eq_zero_iff {text : String} : (utf8 text).length = 0 ↔ text = "" := by
  rw [utf8, Array.length_toList]
  exact String.utf8ByteSize_eq_zero_iff

end Text

namespace LayersView

open Std (ExtTreeMap ExtTreeSet)

/-- The size of a blob, when a view knows it. -/
def size? (view : LayersView) (digest : String) : Option Nat :=
  view.blobs[digest]?.bind BlobData.size

variable (lookup : String → Option Image)

/-- Some image has a layer with a digest. -/
def IsLayer (ids : ExtTreeSet String) (digest : String) : Prop :=
  ∃ id ∈ ids, ∃ image, shown? lookup id = some image ∧ digest ∈ image.layers.map ImageLayer.name

/-- The image of an id has a config with a digest. -/
structure HasConfig (ids : ExtTreeSet String) (digest id : String) (image : Image) : Prop where
  /-- The id is one of those that are shown. -/
  mem : id ∈ ids
  /-- The image is the one that is shown for the id. -/
  shown : shown? lookup id = some image
  /-- The image has the config. -/
  config : configBlob? image = some digest

/-- The image of an id is the last one that has a config with a digest. -/
structure LastConfig (ids : ExtTreeSet String) (digest id : String) (image : Image) : Prop
    extends HasConfig lookup ids digest id image where
  /-- The id is the greatest of those whose images have the config. -/
  greatest : ∀ other image', HasConfig lookup ids digest other image' →
    (compare other id).isLE = true

/-- No digest is that of two of these: a layer, a config, and an image among some ids. -/
structure KindsApart (ids : ExtTreeSet String) : Prop where
  /-- No layer has the digest of an image. -/
  layer_not_mem : ∀ digest, IsLayer lookup ids digest → digest ∉ ids
  /-- No config has the digest of an image. -/
  config_not_mem : ∀ digest id image, HasConfig lookup ids digest id image → digest ∉ ids
  /-- No config has the digest of a layer. -/
  config_not_layer : ∀ digest id image, HasConfig lookup ids digest id image →
    ¬ IsLayer lookup ids digest

variable {lookup} {ids more : ExtTreeSet String} {digest id : String} {image : Image}

/-! ### Fewer ids -/

/-- A layer of some images is one of more images. -/
theorem IsLayer.mono (h : IsLayer lookup ids digest) (hsub : ∀ id ∈ ids, id ∈ more) :
    IsLayer lookup more digest := by
  obtain ⟨id, hid, hlayer⟩ := h
  exact ⟨id, hsub id hid, hlayer⟩

/-- A config of some images is one of more images. -/
theorem HasConfig.mono (h : HasConfig lookup ids digest id image)
    (hsub : ∀ id ∈ ids, id ∈ more) : HasConfig lookup more digest id image :=
  ⟨hsub id h.mem, h.shown, h.config⟩

/-- Kinds that are apart in more images are apart in some of them. -/
theorem KindsApart.of_subset (h : KindsApart lookup more) (hsub : ∀ id ∈ ids, id ∈ more) :
    KindsApart lookup ids where
  layer_not_mem digest hlayer hmem := h.layer_not_mem digest (hlayer.mono hsub) (hsub digest hmem)
  config_not_mem digest id image hconfig hmem :=
    h.config_not_mem digest id image (hconfig.mono hsub) (hsub digest hmem)
  config_not_layer digest id image hconfig hlayer :=
    h.config_not_layer digest id image (hconfig.mono hsub) (hlayer.mono hsub)

/-- More ids refer to more blobs. -/
theorem mem_blobs_of_subset (hsub : ∀ id ∈ ids, id ∈ more)
    (h : digest ∈ (build ids lookup).blobs) : digest ∈ (build more lookup).blobs := by
  rw [mem_blobs_build_iff] at h ⊢
  obtain ⟨id, hid, hrefers⟩ := h
  exact ⟨id, hsub id hid, hrefers⟩

/-! ### The last image with a config -/

/-- The ids are gone through in ascending order. -/
theorem compare_of_toList_eq {before after : List String}
    (hsplit : ids.toList = before ++ id :: after) :
    (∀ other ∈ before, compare other id = .lt) ∧ ∀ other ∈ after, compare id other = .lt := by
  have hordered : (before ++ id :: after).Pairwise fun first second => compare first second = .lt :=
    hsplit ▸ ExtTreeSet.ordered_toList
  obtain ⟨-, hbehind, hacross⟩ := List.pairwise_append.1 hordered
  exact ⟨fun other hother => hacross other hother id List.mem_cons_self,
    (List.pairwise_cons.1 hbehind).1⟩

/-- Of the images that have a config, one is the last. -/
theorem HasConfig.exists_last (h : HasConfig lookup ids digest id image) :
    ∃ last shown, LastConfig lookup ids digest last shown := by
  -- the first one that is found from the end
  let has (id : String) : Bool := (shown? lookup id).bind configBlob? == some digest
  have hsome : (ids.toList.reverse.find? has).isSome := by
    rw [List.find?_isSome]
    exact ⟨id, by simpa using h.mem, by simp [has, h.shown, h.config]⟩
  obtain ⟨last, hlast⟩ := Option.isSome_iff_exists.1 hsome
  obtain ⟨hhas, after, before, hsplit, hafter⟩ := List.find?_eq_some_iff_append.1 hlast
  obtain ⟨shown, hshown, hconfig⟩ := Option.bind_eq_some_iff.1 (beq_iff_eq.1 hhas)
  have hids : ids.toList = before.reverse ++ last :: after.reverse := by
    rw [← List.reverse_reverse ids.toList, hsplit]
    simp
  refine ⟨last, shown, ⟨?_, hshown, hconfig⟩, fun other image' hother => ?_⟩
  · rw [← ExtTreeSet.mem_toList, hids]
    simp
  · have hmem : other ∈ before.reverse ++ last :: after.reverse := by
      rw [← hids]
      exact ExtTreeSet.mem_toList.2 hother.mem
    simp only [List.mem_append, List.mem_cons, List.mem_reverse] at hmem
    obtain hbefore | rfl | hlater := hmem
    · have hlt := (compare_of_toList_eq hids).1 other (List.mem_reverse.2 hbefore)
      simp [hlt]
    · simp
    · -- none of the ids behind it has the config
      have hnone := hafter other hlater
      simp [has, hother.shown, hother.config] at hnone

/-- Only one image is the last one with a config. -/
theorem LastConfig.image_eq (h : LastConfig lookup ids digest id image) {other : String}
    {image' : Image} (hother : LastConfig lookup ids digest other image') : image = image' := by
  have hid : id = other := by
    refine Std.LawfulEqOrd.eq_of_compare ?_
    have hle := hother.greatest id image h.toHasConfig
    have hge := h.greatest other image' hother.toHasConfig
    exact Std.OrientedCmp.isLE_antisymm hle hge
  subst hid
  exact Option.some.inj (h.shown.symm.trans hother.shown)

/-! ### Known sizes -/

/-- What is written last is written. -/
theorem mem_of_lastWrite? {writes : List (String × BlobData)} {data : BlobData}
    (h : lastWrite? digest writes = some data) : (digest, data) ∈ writes := by
  obtain ⟨after, before, hsplit, -⟩ := List.lookup_eq_some_iff.1 h
  rw [← List.mem_reverse, hsplit]
  simp

/-- A view shows a config as the last image that has it does. -/
theorem LastConfig.getElem?_blobs_build (h : LastConfig lookup ids digest id image)
    (hmem : digest ∉ ids) : (build ids lookup).blobs[digest]? = some (configData image) := by
  obtain ⟨before, after, hids⟩ := List.append_of_mem (ExtTreeSet.mem_toList.2 h.mem)
  -- no id behind that of the image writes under the digest
  have hafter : lastWrite? digest (ownWrites lookup after) = none := by
    rw [← Option.not_isSome_iff_eq_none, isSome_lastWrite?_iff]
    rintro ⟨data, hwrite⟩
    obtain ⟨other, hother, image', hshown, hwrite⟩ := (mem_ownWrites_iff lookup).1 hwrite
    have hotherMem : other ∈ ids := by
      rw [← ExtTreeSet.mem_toList, hids]
      simp [hother]
    obtain rfl | hconfig := (exists_mem_ownBlobs_iff other image' digest).1 ⟨data, hwrite⟩
    · exact hmem hotherMem
    · have hlt := (compare_of_toList_eq hids).2 other hother
      have hle := h.greatest other image' ⟨hotherMem, hshown, hconfig⟩
      have hgt : compare other id = .gt := Std.OrientedOrd.eq_swap.trans (congrArg _ hlt)
      exact absurd hle (by simp [hgt])
  -- the image writes its config, and then its manifest under another digest
  have hid : digest ≠ id := fun heq => hmem (heq ▸ h.mem)
  have hown : lastWrite? digest (ownWrites lookup [id]) = some (configData image) := by
    have hne : (digest == id) = false := beq_eq_false_iff_ne.2 hid
    simp [ownWrites, h.shown, ownBlobs, h.config, lastWrite?, List.lookup_cons, hne]
  have hwrites : ownWrites lookup (before ++ id :: after) =
      ownWrites lookup before ++ ownWrites lookup [id] ++ ownWrites lookup after := by
    simp [ownWrites]
  rw [LayersView.getElem?_blobs_build, hids, hwrites, lastWrite?_append, lastWrite?_append, hafter,
    hown]
  rfl

/-- A layer is noted first under the digests of layers. -/
theorem isSome_firstLayer?_notedLayers_iff :
    (firstLayer? digest (notedLayers lookup ids.toList)).isSome ↔ IsLayer lookup ids digest := by
  simp only [firstLayer?, Option.isSome_map, List.find?_isSome, notedLayers, List.mem_flatMap,
    ExtTreeSet.mem_toList, mem_getD_map_iff, beq_iff_eq, IsLayer, List.mem_map]
  constructor
  · rintro ⟨layer, ⟨id, hid, image, hshown, hlayer⟩, hname⟩
    exact ⟨id, hid, image, hshown, layer, hlayer, hname⟩
  · rintro ⟨id, hid, image, hshown, layer, hlayer, hname⟩
    exact ⟨layer, ⟨id, hid, image, hshown, hlayer⟩, hname⟩

/-- A layer says its size. -/
theorem isSome_size_of_firstLayer? {layers : List ImageLayer} {data : BlobData}
    (h : firstLayer? digest layers = some data) : data.size.isSome := by
  obtain ⟨layer, -, rfl⟩ := Option.map_eq_some_iff.1 h
  rfl

/-- A config has a size when there is a payload. -/
theorem isSome_size_configData_iff {image : Image} :
    (configData image).size.isSome ↔ image.config ≠ "" := by
  simp only [configData, Text.length_utf8_eq_zero_iff]
  split
  next hnone => simp [hnone]
  next hsome => simp [hsome]

/-- A view does not know the size of a manifest. -/
theorem KindsApart.size?_of_mem (h : KindsApart lookup ids) (hmem : digest ∈ ids) :
    (build ids lookup).size? digest = none := by
  rw [size?, getElem?_blobs_build, Option.bind_eq_none_iff]
  intro data hdata
  obtain hwrite | ⟨-, hnoted⟩ := Option.or_eq_some_iff.1 hdata
  · obtain ⟨id, hid, image, hshown, hwrite⟩ :=
      (mem_ownWrites_iff lookup).1 (mem_of_lastWrite? hwrite)
    rw [ExtTreeSet.mem_toList] at hid
    simp only [ownBlobs, List.mem_append, Option.mem_toList, Option.map_eq_some_iff, Prod.mk.injEq,
      List.mem_singleton] at hwrite
    obtain ⟨config, hconfig, rfl, -⟩ | ⟨-, rfl⟩ := hwrite
    · exact absurd hmem (h.config_not_mem _ id image ⟨hid, hshown, hconfig⟩)
    · rfl
  · have hlayer := isSome_firstLayer?_notedLayers_iff.1 (Option.isSome_of_eq_some hnoted)
    exact absurd hmem (h.layer_not_mem digest hlayer)

/-- A view knows the sizes of all layers, and the size of a config when the last image that has it
carries its payload. -/
theorem KindsApart.isSome_size?_iff (h : KindsApart lookup ids) :
    ((build ids lookup).size? digest).isSome ↔
      IsLayer lookup ids digest ∨
        ∃ id image, LastConfig lookup ids digest id image ∧ image.config ≠ "" := by
  by_cases hmem : digest ∈ ids
  · -- manifests are neither layers nor configs
    rw [h.size?_of_mem hmem]
    refine iff_of_false (by simp) ?_
    rintro (hlayer | ⟨id, image, hlast, -⟩)
    · exact h.layer_not_mem digest hlayer hmem
    · exact h.config_not_mem digest id image hlast.toHasConfig hmem
  by_cases hconfig : ∃ id image, HasConfig lookup ids digest id image
  · obtain ⟨id, image, hhas⟩ := hconfig
    obtain ⟨last, shown, hlast⟩ := hhas.exists_last
    rw [size?, hlast.getElem?_blobs_build hmem, Option.bind_some, isSome_size_configData_iff]
    constructor
    · intro hpayload
      exact Or.inr ⟨last, shown, hlast, hpayload⟩
    · rintro (hlayer | ⟨other, image', hother, hpayload⟩)
      · exact absurd hlayer (h.config_not_layer digest id image hhas)
      · rwa [hlast.image_eq hother]
  · -- nothing but layers has the digest
    have hother : ¬ IsOwned lookup ids digest := by
      rintro ⟨id, hid, image, hshown, rfl | hhas⟩
      · exact hmem hid
      · exact hconfig ⟨id, image, hid, hshown, hhas⟩
    rw [size?, getElem?_blobs_build, lastWrite?_ownWrites_eq_none hother, Option.none_or,
      ← isSome_firstLayer?_notedLayers_iff]
    cases hnoted : firstLayer? digest (notedLayers lookup ids.toList) with
    | none =>
      refine iff_of_false (by simp) ?_
      rintro (hsome | ⟨id, image, hlast, -⟩)
      · simp at hsome
      · exact hconfig ⟨id, image, hlast.toHasConfig⟩
    | some data => simp [isSome_size_of_firstLayer? hnoted]

/-- Adding ids to a view keeps all of its blobs. The size of a blob that was known is known
afterwards just when the last image that then has it for its config, if there is one, carries the
payload. -/
theorem known_sizes_kept_iff (hsub : ∀ id ∈ ids, id ∈ more) (hapart : KindsApart lookup more) :
    (∀ digest ∈ (build ids lookup).blobs, digest ∈ (build more lookup).blobs) ∧
      ∀ digest, ((build ids lookup).size? digest).isSome →
        (((build more lookup).size? digest).isSome ↔
          ∀ id image, LastConfig lookup more digest id image → image.config ≠ "") := by
  refine ⟨fun digest => mem_blobs_of_subset hsub, fun digest hknown => ?_⟩
  rw [hapart.isSome_size?_iff]
  constructor
  · rintro (hlayer | ⟨id, image, hlast, hpayload⟩) other image' hother
    · exact absurd hlayer (hapart.config_not_layer digest other image' hother.toHasConfig)
    · rwa [hother.image_eq hlast]
  · intro hpayload
    -- what was known is a layer, or the config of an image that is still there
    obtain hlayer | ⟨id, image, hlast, -⟩ := (hapart.of_subset hsub).isSome_size?_iff.1 hknown
    · exact Or.inl (hlayer.mono hsub)
    · obtain ⟨last, shown, hmore⟩ := (hlast.toHasConfig.mono hsub).exists_last
      exact Or.inr ⟨last, shown, hmore, hpayload last shown hmore⟩

section TwoImages

/-- An image with a docker config, of which it carries some payload or none. -/
def withConfig (payload : String) : Image :=
  { config := payload, dockerMetadata := some { id := "config" } }

/-- Two images that share a config. -/
def twoImages (payload payload' : String) : String → Option Image
  | "first" => some (withConfig payload)
  | "second" => some (withConfig payload')
  | _ => none

/-- The ids of the two images. -/
def both : ExtTreeSet String := .ofList ["first", "second"]

theorem mem_both_iff {id : String} : id ∈ both ↔ id = "first" ∨ id = "second" := by
  simp [both]

/-- Both images have the config and no layers, whatever they carry. -/
theorem shown?_twoImages {payload payload' id : String} {image : Image}
    (h : shown? (twoImages payload payload') id = some image) :
    image = withConfig payload ∨ image = withConfig payload' := by
  obtain ⟨stored, hstored, rfl⟩ := Option.map_eq_some_iff.1 h
  unfold twoImages at hstored
  split at hstored
  next => exact Or.inl (Option.some.inj hstored ▸ rfl)
  next => exact Or.inr (Option.some.inj hstored ▸ rfl)
  next => contradiction

theorem kindsApart_twoImages (payload payload' : String) :
    KindsApart (twoImages payload payload') both := by
  have hlayer (digest : String) : ¬ IsLayer (twoImages payload payload') both digest := by
    rintro ⟨id, -, image, hshown, hmem⟩
    obtain rfl | rfl := shown?_twoImages hshown
    · exact List.not_mem_nil hmem
    · exact List.not_mem_nil hmem
  refine ⟨fun digest h => absurd h (hlayer digest), fun digest id image h => ?_,
    fun digest _ _ _ => hlayer digest⟩
  have hdigest : digest = "config" := by
    obtain ⟨-, hshown, hconfig⟩ := h
    obtain rfl | rfl := shown?_twoImages hshown
    · exact (Option.some.inj hconfig).symm
    · exact (Option.some.inj hconfig).symm
  rw [hdigest, mem_both_iff]
  decide

theorem lastConfig_twoImages (payload payload' : String) :
    LastConfig (twoImages payload payload') both "config" "second" (withConfig payload') := by
  refine ⟨⟨mem_both_iff.2 (Or.inr rfl), rfl, rfl⟩, fun other image' hother => ?_⟩
  obtain rfl | rfl := mem_both_iff.1 hother.mem
  · decide
  · decide

/-- The size of a config that the second image carries is known, also when the first image, which
carries none, is added. -/
theorem known_sizes_kept_iff_carriedLast :
    let lookup := twoImages "" "\x7b\x7d"
    let one : ExtTreeSet String := .ofList ["second"]
    (∀ id ∈ one, id ∈ both) ∧ KindsApart lookup both ∧
      (build one lookup).size? "config" = some 2 ∧
      ((build both lookup).size? "config").isSome ∧ "second" ∈ (build both lookup).blobs := by
  intro lookup one
  have hsub : ∀ id ∈ one, id ∈ both := by simp [one, mem_both_iff]
  have hapart := kindsApart_twoImages "" "\x7b\x7d"
  have hknown : (build one lookup).size? "config" = some 2 := by decide +kernel
  have hlisted : "second" ∈ (build one lookup).blobs := by decide +kernel
  obtain ⟨hblobs, hsizes⟩ := known_sizes_kept_iff hsub hapart
  refine ⟨hsub, hapart, hknown, (hsizes "config" (hknown ▸ rfl)).2 fun id image hlast => ?_,
    hblobs "second" hlisted⟩
  rw [hlast.image_eq (lastConfig_twoImages "" "\x7b\x7d")]
  decide

/-- The size of a config that the first image carries is no longer known when the second image,
which carries none, is added. -/
theorem known_size_lost :
    let lookup := twoImages "\x7b\x7d" ""
    let one : ExtTreeSet String := .ofList ["first"]
    (∀ id ∈ one, id ∈ both) ∧ KindsApart lookup both ∧
      (build one lookup).size? "config" = some 2 ∧ (build both lookup).size? "config" = none := by
  intro lookup one
  refine ⟨by simp [one, mem_both_iff], kindsApart_twoImages _ _, by decide +kernel, ?_⟩
  decide +kernel

end TwoImages

end LayersView

end RegistryBench
