import RegistryBench.Proofs.ControlPlane.History

/-!
# What index entries list

The index entry of a stream should list the images that the tag events of the stream name and the
manifests of those that are stored (`Store.Lists`). Writing the stream makes the entry so. Writing
an image only ever adds to entries, and adds to every entry that holds the image, also to one that
holds it as the manifest of another. What an entry holds therefore depends on the versions of
images that it took in (`Store.absorbed`), some of which may be replaced by now.

* `Store.mem_layerIndex_replay_iff` says what an entry holds after any writes.
* `layerIndex_exact_iff` says when that is what the entry should list.
* `layerIndex_bounds` says what holds of every entry.
-/

namespace RegistryBench

namespace Store

/-- What the index entry of a stream should list: the images that the tag events of the stream
name, and the manifests of those images that are stored. -/
def Lists (store : Store) (stream : ImageStream) (id : String) : Prop :=
  ∃ name ∈ stream.referencedImages,
    id = name ∨ ∃ image, store.image? name = some image ∧ id ∈ image.subManifests

/-- The manifests of the image of some name are those of the stored image. -/
theorem mem_subManifests_iff (store : Store) (name id : String) :
    id ∈ store.subManifests name ↔
      ∃ image, store.image? name = some image ∧ id ∈ image.subManifests := by
  rw [subManifests]
  cases store.image? name with
  | none => simp
  | some image => simp

/-- A computed entry holds what it should list. -/
theorem lists_iff_mem_entryFor (store : Store) (stream : ImageStream) (id : String) :
    store.Lists stream id ↔ id ∈ store.entryFor stream := by
  rw [Lists, mem_entryFor]
  simp only [mem_subManifests_iff]

/-- Whether an entry should list an id is decidable. -/
instance (store : Store) (stream : ImageStream) (id : String) :
    Decidable (store.Lists stream id) :=
  decidable_of_iff _ (lists_iff_mem_entryFor store stream id).symm

/-- The tag events of the stream stored under a key name an image. -/
def References (store : Store) (key : StreamKey) (name : String) : Prop :=
  ∃ stream, store.streams[key]? = some stream ∧ name ∈ stream.referencedImages

/-- Whether a stored stream names an image is decidable. -/
instance (store : Store) (key : StreamKey) (name : String) :
    Decidable (store.References key name) :=
  match h : store.streams[key]? with
  | none => isFalse fun ⟨_, hstream, _⟩ => by simp [h] at hstream
  | some stream =>
    decidable_of_iff (name ∈ stream.referencedImages)
      ⟨fun hname => ⟨stream, h, hname⟩, fun ⟨_, hstream, hname⟩ => by
        rw [h, Option.some.injEq] at hstream
        exact hstream ▸ hname⟩

/-! ### The versions that an entry took in -/

/-- The entry of some key holds a name when it took in some versions: the stream names it, or it
is a manifest of one of the versions. -/
def Holds (store : Store) (key : StreamKey) (versions : List Image) (name : String) : Prop :=
  store.References key name ∨ ∃ version ∈ versions, name ∈ version.subManifests

/-- Whether an entry holds a name is decidable. -/
instance (store : Store) (key : StreamKey) (versions : List Image) (name : String) :
    Decidable (store.Holds key versions name) := by
  unfold Holds
  infer_instance

/-- The versions of images whose manifests the entry of some key took in since its stream was
last written: those that the stream found stored, and those written later that the entry held,
be it as an image of the stream or as a manifest of a version taken in before. -/
def absorbed (key : StreamKey) : List Write → List Image
  | [] => []
  | .stream stream :: past =>
    if stream.key = key then stream.referencedImages.filterMap (replay past).image?
    else absorbed key past
  | .image image :: past =>
    if (replay past).Holds key (absorbed key past) image.name then image :: absorbed key past
    else absorbed key past

/-- Writing a stream takes in the images of the stream that are stored, and no others. -/
theorem mem_absorbed_stream {key : StreamKey} {stream : ImageStream} {past : List Write}
    (hkey : stream.key = key) (version : Image) :
    version ∈ absorbed key (.stream stream :: past) ↔
      ∃ name ∈ stream.referencedImages, (replay past).image? name = some version := by
  rw [absorbed, if_pos hkey, List.mem_filterMap]

/-- Writing another stream takes in nothing. -/
theorem absorbed_stream_of_ne {key : StreamKey} {stream : ImageStream} {past : List Write}
    (hkey : stream.key ≠ key) : absorbed key (.stream stream :: past) = absorbed key past := by
  rw [absorbed, if_neg hkey]

/-- Writing an image takes in its version where the entry holds the image. -/
theorem mem_absorbed_image (key : StreamKey) (image : Image) (past : List Write)
    (version : Image) :
    version ∈ absorbed key (.image image :: past) ↔
      version ∈ absorbed key past ∨
        version = image ∧ (replay past).Holds key (absorbed key past) image.name := by
  rw [absorbed]
  split
  next h => simp only [List.mem_cons, h, and_true, or_comm]
  next h => simp only [h, and_false, or_false]

/-- A version that an entry took in was stored at some write. -/
theorem exists_suffix_of_mem_absorbed {key : StreamKey} {past : List Write} {version : Image}
    (h : version ∈ absorbed key past) :
    ∃ older, older <:+ past ∧ (replay older).image? version.name = some version := by
  induction past with
  | nil => exact absurd h List.not_mem_nil
  | cons w past ih =>
    -- what was taken in before was stored before
    have hbefore (hversion : version ∈ absorbed key past) :
        ∃ older, older <:+ w :: past ∧ (replay older).image? version.name = some version := by
      obtain ⟨older, holder, hstored⟩ := ih hversion
      exact ⟨older, holder.trans (List.suffix_cons _ _), hstored⟩
    cases w with
    | image image =>
      obtain hversion | ⟨rfl, -⟩ := (mem_absorbed_image key image past version).1 h
      · exact hbefore hversion
      · refine ⟨_, List.suffix_rfl, ?_⟩
        rw [replay_image, image?_putImage, if_pos rfl]
    | stream stream =>
      by_cases hkey : stream.key = key
      · obtain ⟨name, -, hstored⟩ := (mem_absorbed_stream hkey version).1 h
        refine ⟨past, List.suffix_cons _ _, ?_⟩
        rw [name_of_image?_replay hstored]
        exact hstored
      · rw [absorbed_stream_of_ne hkey] at h
        exact hbefore h

/-- The stored version of an image that a stored stream names has been taken in. -/
theorem mem_absorbed_of_stored {key : StreamKey} {past : List Write} {name : String}
    {image : Image} (hname : (replay past).References key name)
    (himage : (replay past).image? name = some image) : image ∈ absorbed key past := by
  induction past with
  | nil => simp [replay, empty, image?] at himage
  | cons w past ih =>
    cases w with
    | image written =>
      rw [mem_absorbed_image]
      rw [replay_image, image?_putImage] at himage
      split at himage
      next hwritten =>
        -- the stored version has just been written, to an entry that holds its name
        have hwritten' : image = written := (Option.some.inj himage).symm
        exact Or.inr ⟨hwritten', Or.inl (hwritten ▸ hname)⟩
      next => exact Or.inl (ih hname himage)
    | stream stream =>
      obtain ⟨stored, hstored, hname⟩ := hname
      rw [replay_stream, streams_putStream] at hstored
      -- a stream takes in the stored versions when it is written
      by_cases hkey : stream.key = key
      · rw [if_pos hkey, Option.some.injEq] at hstored
        exact (mem_absorbed_stream hkey image).2 ⟨name, hstored ▸ hname, himage⟩
      · rw [if_neg hkey] at hstored
        rw [absorbed_stream_of_ne hkey]
        exact ih ⟨stored, hstored, hname⟩ himage

/-- An entry holds the names of the versions that it took in. -/
theorem holds_of_mem_absorbed {key : StreamKey} {past : List Write} {version : Image}
    (h : version ∈ absorbed key past) :
    (replay past).Holds key (absorbed key past) version.name := by
  induction past with
  | nil => exact absurd h List.not_mem_nil
  | cons w past ih =>
    cases w with
    | image image =>
      -- a new version changes neither the stream nor what was taken in before
      have hgrow (hholds : (replay past).Holds key (absorbed key past) version.name) :
          (replay (.image image :: past)).Holds key (absorbed key (.image image :: past))
            version.name := by
        refine hholds.imp_right ?_
        rintro ⟨parent, hparent, hname⟩
        exact ⟨parent, (mem_absorbed_image key image past parent).2 (Or.inl hparent), hname⟩
      obtain hversion | ⟨rfl, hholds⟩ := (mem_absorbed_image key image past version).1 h
      · exact hgrow (ih hversion)
      · exact hgrow hholds
    | stream stream =>
      by_cases hkey : stream.key = key
      · obtain ⟨name, hname, hstored⟩ := (mem_absorbed_stream hkey version).1 h
        refine Or.inl ⟨stream, ?_, ?_⟩
        · rw [replay_stream, streams_putStream, if_pos hkey]
        · rw [name_of_image?_replay hstored]
          exact hname
      · rw [absorbed_stream_of_ne hkey] at h ⊢
        refine (ih h).imp_left ?_
        rintro ⟨stored, hstored, hname⟩
        refine ⟨stored, ?_, hname⟩
        rw [replay_stream, streams_putStream, if_neg hkey]
        exact hstored

/-! ### Entries -/

/-- An entry that is computed holds the images that the tag events name and the manifests of the
versions that it takes in. -/
theorem mem_entryFor_iff_absorbed {key : StreamKey} {stream : ImageStream} {past : List Write}
    (hkey : stream.key = key) (id : String) :
    id ∈ (replay past).entryFor stream ↔ id ∈ stream.referencedImages ∨
      ∃ version ∈ absorbed key (.stream stream :: past), id ∈ version.subManifests := by
  rw [← lists_iff_mem_entryFor, Lists]
  simp only [mem_absorbed_stream hkey]
  constructor
  · rintro ⟨name, hname, rfl | ⟨image, himage, hid⟩⟩
    · exact Or.inl hname
    · exact Or.inr ⟨image, ⟨name, hname, himage⟩, hid⟩
  · rintro (hid | ⟨image, ⟨name, hname, himage⟩, hid⟩)
    · exact ⟨id, hid, Or.inl rfl⟩
    · exact ⟨name, hname, Or.inr ⟨image, himage, hid⟩⟩

/-- A stored stream has an entry, which holds the images that its tag events name and the
manifests of the versions that it took in. -/
theorem mem_layerIndex_replay_iff {key : StreamKey} {stream : ImageStream} {past : List Write}
    (hstream : (replay past).streams[key]? = some stream) :
    ∃ ids, (replay past).layerIndex? key = some ids ∧
      ∀ id, id ∈ ids ↔ id ∈ stream.referencedImages ∨
        ∃ version ∈ absorbed key past, id ∈ version.subManifests := by
  induction past with
  | nil => simp [replay, empty] at hstream
  | cons w past ih =>
    cases w with
    | image image =>
      rw [replay_image, streams_putImage] at hstream
      obtain ⟨ids, hids, hmem⟩ := ih hstream
      refine ⟨extend image ids, ?_, fun id => ?_⟩
      · rw [replay_image, layerIndex?_putImage, hids, Option.map_some]
      · -- the entry holds the image exactly when its version is taken in
        have hholds : image.name ∈ ids ↔
            (replay past).Holds key (absorbed key past) image.name := by
          rw [hmem, Holds, References]
          simp only [hstream, Option.some.injEq, exists_eq_left']
        rw [mem_extend, hholds, hmem]
        simp only [mem_absorbed_image, or_and_right, exists_or, or_assoc, and_assoc,
          exists_eq_left]
    | stream written =>
      rw [replay_stream, streams_putStream] at hstream
      by_cases hkey : written.key = key
      · rw [if_pos hkey, Option.some.injEq] at hstream
        subst hstream
        refine ⟨(replay past).entryFor written, ?_, mem_entryFor_iff_absorbed hkey⟩
        rw [replay_stream, layerIndex?_putStream, if_pos hkey]
      · rw [if_neg hkey] at hstream
        rw [replay_stream, layerIndex?_putStream, if_neg hkey, absorbed_stream_of_ne hkey]
        exact ih hstream

/-- What the entry of a stored stream holds. -/
theorem mem_iff_of_layerIndex {key : StreamKey} {stream : ImageStream} {past : List Write}
    {ids : Std.ExtTreeSet String} (hstream : (replay past).streams[key]? = some stream)
    (hids : (replay past).layerIndex? key = some ids) (id : String) :
    id ∈ ids ↔ id ∈ stream.referencedImages ∨
      ∃ version ∈ absorbed key past, id ∈ version.subManifests := by
  obtain ⟨_, hentry, hmem⟩ := mem_layerIndex_replay_iff hstream
  obtain rfl := Option.some.inj (hids.symm.trans hentry)
  exact hmem id

/-- Entries belong to stored streams. -/
theorem layerIndex?_replay_eq_none {key : StreamKey} {past : List Write}
    (hstream : (replay past).streams[key]? = none) : (replay past).layerIndex? key = none := by
  induction past with
  | nil => simp [replay, empty, layerIndex?]
  | cons w past ih =>
    cases w with
    | image image => rw [replay_image, layerIndex?_putImage, ih hstream, Option.map_none]
    | stream stream =>
      rw [replay_stream, streams_putStream] at hstream
      split at hstream
      next => exact absurd hstream (Option.some_ne_none _)
      next hkey =>
        rw [replay_stream, layerIndex?_putStream, if_neg hkey]
        exact ih hstream

/-- Exactly the stored streams have entries. -/
theorem isSome_layerIndex?_replay_iff (past : List Write) (key : StreamKey) :
    ((replay past).layerIndex? key).isSome ↔ (replay past).hasStream key := by
  rw [hasStream, decide_eq_true_iff, Std.ExtTreeMap.mem_iff_isSome_getElem?]
  cases hstream : (replay past).streams[key]? with
  | none => rw [layerIndex?_replay_eq_none hstream, Option.isSome_none, Option.isSome_none]
  | some stream =>
    obtain ⟨ids, hids, -⟩ := mem_layerIndex_replay_iff hstream
    rw [hids]
    exact iff_of_true rfl rfl

/-- What an entry should list is in it. -/
theorem mem_of_lists {key : StreamKey} {stream : ImageStream} {past : List Write}
    {ids : Std.ExtTreeSet String} (hstream : (replay past).streams[key]? = some stream)
    (hids : (replay past).layerIndex? key = some ids) {id : String}
    (hid : (replay past).Lists stream id) : id ∈ ids := by
  rw [mem_iff_of_layerIndex hstream hids]
  obtain ⟨name, hname, rfl | ⟨image, himage, hid⟩⟩ := hid
  · exact Or.inl hname
  · have hversion : image ∈ absorbed key past :=
      mem_absorbed_of_stored ⟨stream, hstream, hname⟩ himage
    exact Or.inr ⟨image, hversion, hid⟩

/-- The index entry of a stream holds exactly what it should list. -/
def ExactlyIndexed (store : Store) (key : StreamKey) (stream : ImageStream) : Prop :=
  ∃ ids, store.layerIndex? key = some ids ∧ ∀ id, id ∈ ids ↔ store.Lists stream id

/-- An entry is exact when every manifest that it took in is one that it should list. -/
theorem exactlyIndexed_iff_absorbed {key : StreamKey} {stream : ImageStream} {past : List Write}
    (hstream : (replay past).streams[key]? = some stream) :
    (replay past).ExactlyIndexed key stream ↔
      ∀ version ∈ absorbed key past, ∀ id ∈ version.subManifests,
        (replay past).Lists stream id := by
  constructor
  · rintro ⟨ids, hids, hexact⟩ version hversion id hid
    have hmem : id ∈ ids :=
      (mem_iff_of_layerIndex hstream hids id).2 (Or.inr ⟨version, hversion, hid⟩)
    exact (hexact id).1 hmem
  · intro habsorbed
    obtain ⟨ids, hids, hmem⟩ := mem_layerIndex_replay_iff hstream
    -- nothing is missing anyway, so only what was taken in can be too much
    refine ⟨ids, hids, fun id => ⟨fun hid => ?_, mem_of_lists hstream hids⟩⟩
    obtain hname | ⟨version, hversion, hid⟩ := (hmem id).1 hid
    · exact ⟨id, hname, Or.inl rfl⟩
    · exact habsorbed version hversion id hid

/-- An entry that holds an id which it should not list is not exact. -/
theorem not_exactlyIndexed {store : Store} {key : StreamKey} {stream : ImageStream} {id : String}
    (hmem : id ∈ (store.layerIndex? key).getD ∅) (hid : ¬ store.Lists stream id) :
    ¬ store.ExactlyIndexed key stream := by
  rintro ⟨ids, hids, hexact⟩
  rw [hids, Option.getD_some] at hmem
  exact hid ((hexact id).1 hmem)

/-- No stored image that has manifests is itself a manifest of a stored image. -/
def Flat (store : Store) : Prop :=
  ∀ name parent, store.image? name = some parent → ∀ id ∈ parent.subManifests,
    ∀ image, store.image? id = some image → image.subManifests = []

/-- Writing an image of a new name keeps what is stored. -/
theorem image?_putImage_of_not_mem {store : Store} {written image : Image} {name : String}
    (hnew : written.name ∉ store.images) (himage : store.image? name = some image) :
    (store.putImage written).image? name = some image := by
  rw [image?_putImage, if_neg]
  · exact himage
  · rintro rfl
    exact hnew ((mem_images_iff _ _).2 ⟨image, himage⟩)

end Store

namespace ControlPlane

/-! ### Entries after operations -/

/-- The operation is to replace an image. -/
def Operation.UpdatesImage (operation : Operation) : Prop :=
  ∃ image, operation.request = .updateImage image

/-- A request that does not replace an image keeps the images that are stored. -/
theorem image?_effect {request : Request} (hrequest : ∀ image, request ≠ .updateImage image)
    (now : Timestamp) {store : Store} {name : String} {image : Image}
    (himage : store.image? name = some image) :
    (store.writeAll (request.effect now store).2).image? name = some image := by
  obtain ⟨answer, rfl⟩ | ⟨e, heffect, -⟩ | ⟨outcome, written, heffect, hupdate⟩ |
    ⟨outcome, stream, kept, heffect, hkept, -⟩ := effect_cases now store request
  · exact himage
  · rw [heffect]
    exact himage
  · rw [heffect]
    have hnew : written.name ∉ store.images := fun h => hrequest written (hupdate h)
    exact Store.image?_putImage_of_not_mem hnew himage
  · rw [heffect]
    obtain rfl | ⟨written, hnew, rfl⟩ := hkept
    · exact himage
    · exact Store.image?_putImage_of_not_mem hnew himage

/-- Operations that do not replace images keep the images that are stored. -/
theorem image?_after_append {operations later : List (Timestamp × Operation)}
    (hlater : ∀ step ∈ later, ¬ step.2.UpdatesImage) {name : String} {image : Image}
    (himage : (empty.after operations).store.image? name = some image) :
    (empty.after (operations ++ later)).store.image? name = some image := by
  induction later using List.reverseRecOn with
  | nil => rwa [List.append_nil]
  | append_singleton later step ih =>
    have hstep : ∀ image, step.2.request ≠ .updateImage image := by
      intro image hrequest
      exact hlater step (by simp) ⟨image, hrequest⟩
    have hkept := ih fun step hmem => hlater step (List.mem_append_left _ hmem)
    rw [← List.append_assoc, after_concat, store_serve (wellFormed_after _)]
    exact image?_effect hstep step.1 hkept

/-- Where no image is replaced, every version that an entry took in is still stored. -/
theorem stored_of_mem_absorbed {operations : List (Timestamp × Operation)}
    (hoperations : ∀ step ∈ operations, ¬ step.2.UpdatesImage) {key : StreamKey}
    {version : Image} (hversion : version ∈ Store.absorbed key (history operations)) :
    (empty.after operations).store.image? version.name = some version := by
  -- it was stored after some operation, and the later ones keep it
  obtain ⟨older, holder, hstored⟩ := Store.exists_suffix_of_mem_absorbed hversion
  obtain ⟨earlier, ⟨later, rfl⟩, hstored⟩ := exists_after_of_suffix holder hstored
  exact image?_after_append (fun step hstep => hoperations step (List.mem_append_right _ hstep))
    hstored

/-- Where no image is replaced and no manifest of a stored image is a list itself, entries are
exact. -/
theorem exactlyIndexed_of_flat {operations : List (Timestamp × Operation)}
    (hoperations : ∀ step ∈ operations, ¬ step.2.UpdatesImage)
    (hflat : (empty.after operations).store.Flat) {key : StreamKey} {stream : ImageStream}
    (hstream : (empty.after operations).store.streams[key]? = some stream) :
    (empty.after operations).store.ExactlyIndexed key stream := by
  have hstored {version : Image} (hversion : version ∈ Store.absorbed key (history operations)) :
      (Store.replay (history operations)).image? version.name = some version := by
    rw [← store_after]
    exact stored_of_mem_absorbed hoperations hversion
  rw [store_after] at hflat hstream ⊢
  refine (Store.exactlyIndexed_iff_absorbed hstream).2 fun version hversion id hid => ?_
  obtain ⟨_, hnamed, hname⟩ | ⟨parent, hparent, hname⟩ := Store.holds_of_mem_absorbed hversion
  · -- a version of an image that the stream names is the stored one
    obtain rfl := Option.some.inj (hnamed.symm.trans hstream)
    exact ⟨version.name, hname, Or.inr ⟨version, hstored hversion, hid⟩⟩
  · -- a version taken in as a manifest has no manifests
    have hempty : version.subManifests = [] :=
      hflat _ parent (hstored hparent) _ hname version (hstored hversion)
    rw [hempty] at hid
    exact absurd hid List.not_mem_nil

/-- An id in an entry is named by a tag event or was a manifest of an image that was stored after
some operations of the run. -/
theorem stored_of_mem_layerIndex {operations : List (Timestamp × Operation)} {key : StreamKey}
    {stream : ImageStream} {ids : Std.ExtTreeSet String}
    (hstream : (Store.replay (history operations)).streams[key]? = some stream)
    (hids : (Store.replay (history operations)).layerIndex? key = some ids) {id : String}
    (hid : id ∈ ids) :
    id ∈ stream.referencedImages ∨
      ∃ earlier, earlier <+: operations ∧
        ∃ name image, (empty.after earlier).store.image? name = some image ∧
          id ∈ image.subManifests := by
  refine ((Store.mem_iff_of_layerIndex hstream hids id).1 hid).imp_right ?_
  rintro ⟨version, hversion, hid⟩
  -- the version was stored at some write, hence also after some operation
  obtain ⟨older, holder, hstored⟩ := Store.exists_suffix_of_mem_absorbed hversion
  obtain ⟨earlier, hearlier, hstored⟩ := exists_after_of_suffix holder hstored
  exact ⟨earlier, hearlier, version.name, version, hstored, hid⟩

/-- The entry of a stored stream is exact when every manifest that it took in since the stream was
last written is named by a tag event or belongs to the stored version of an image that one names.
-/
theorem layerIndex_exact_iff (operations : List (Timestamp × Operation)) (key : StreamKey)
    (stream : ImageStream) (hstream : (empty.after operations).store.streams[key]? = some stream) :
    (empty.after operations).store.ExactlyIndexed key stream ↔
      ∀ version ∈ Store.absorbed key (history operations), ∀ id ∈ version.subManifests,
        (empty.after operations).store.Lists stream id := by
  rw [store_after] at hstream ⊢
  exact Store.exactlyIndexed_iff_absorbed hstream

namespace Runs

/-- An image of some name that is a list of the manifests of some digests. -/
def listOf (name : String) (digests : List String) : Image :=
  { metadata := { name }, manifests := digests.map (⟨·, "", 0, "", ""⟩) }

/-- A stream whose only tag event names an image. -/
def tagging (name : String) : ImageStream :=
  { metadata := { name := "app", ns := "test" }
    status := { tags := [⟨"latest", [⟨⟨0, 0⟩, "", name, 0⟩]⟩] } }

/-- What the stream is stored under. -/
def appKey : StreamKey := ⟨"test", "app"⟩

/-- A list that is stored after a stream names it. -/
def lateList : List (Timestamp × Operation) :=
  [(⟨0, 0⟩, .createStream (tagging "list")), (⟨1, 0⟩, .createImage (listOf "list" ["part"]))]

/-- A list that is replaced by one without its manifest. -/
def shrunkList : List (Timestamp × Operation) :=
  lateList ++ [(⟨2, 0⟩, .updateImage (listOf "list" []))]

/-- A list whose manifest is stored as a list of its own. -/
def nestedList : List (Timestamp × Operation) :=
  lateList ++ [(⟨2, 0⟩, .createImage (listOf "part" ["deep"]))]

/-- The stream as it is stored in these runs. -/
def stored : ImageStream :=
  Store.stamp (tagging "list") (some ⟨0, 0⟩)

end Runs

open Runs

/-- The condition is met when a list is stored after the stream that names it. -/
theorem layerIndex_exact_lateList :
    (empty.after lateList).store.streams[appKey]? = some stored ∧
      (empty.after lateList).store.ExactlyIndexed appKey stored := by
  have hstream : (empty.after lateList).store.streams[appKey]? = some stored := by
    decide +kernel
  refine ⟨hstream, (layerIndex_exact_iff lateList appKey stored hstream).2 ?_⟩
  decide +kernel

/-- An entry keeps a manifest that its list no longer has, and it takes in the manifests of a
manifest. -/
theorem layerIndex_inexact :
    ((empty.after shrunkList).store.streams[appKey]? = some stored ∧
      ¬ (empty.after shrunkList).store.ExactlyIndexed appKey stored) ∧
    ((empty.after nestedList).store.streams[appKey]? = some stored ∧
      ¬ (empty.after nestedList).store.ExactlyIndexed appKey stored) := by
  refine ⟨⟨by decide +kernel, ?_⟩, ⟨by decide +kernel, ?_⟩⟩
  · have hpart : "part" ∈ ((empty.after shrunkList).store.layerIndex? appKey).getD ∅ := by
      decide +kernel
    exact Store.not_exactlyIndexed hpart (by decide +kernel)
  · have hdeep : "deep" ∈ ((empty.after nestedList).store.layerIndex? appKey).getD ∅ := by
      decide +kernel
    exact Store.not_exactlyIndexed hdeep (by decide +kernel)

/-- Whatever the order of operations, exactly the stored streams have index entries. Nothing is
missing from an entry, and every id in it is named by a tag event or was a manifest of an image
stored at some point of the run. Where no image is replaced and no manifest of a stored image is
a list itself, the entry is exact. -/
theorem layerIndex_bounds (operations : List (Timestamp × Operation)) (key : StreamKey) :
    let store := (empty.after operations).store
    ((store.layerIndex? key).isSome ↔ store.hasStream key) ∧
      ∀ stream ids, store.streams[key]? = some stream → store.layerIndex? key = some ids →
        (∀ id, store.Lists stream id → id ∈ ids) ∧
        (∀ id ∈ ids, id ∈ stream.referencedImages ∨
          ∃ earlier, earlier <+: operations ∧
            ∃ name image, (empty.after earlier).store.image? name = some image ∧
              id ∈ image.subManifests) ∧
        ((∀ step ∈ operations, ¬ step.2.UpdatesImage) → store.Flat →
          ∀ id, id ∈ ids ↔ store.Lists stream id) := by
  intro store
  have hstore : store = .replay (history operations) := store_after operations
  refine ⟨?_, fun stream ids hstream hids => ⟨fun id hid => ?_, fun id hid => ?_, ?_⟩⟩
  · rw [hstore]
    exact Store.isSome_layerIndex?_replay_iff (history operations) key
  · rw [hstore] at hstream hids hid
    exact Store.mem_of_lists hstream hids hid
  · rw [hstore] at hstream hids
    exact stored_of_mem_layerIndex hstream hids hid
  · intro hoperations hflat
    -- without replacements and nested lists the entry is exact, and a stream has one entry
    obtain ⟨_, hentry, hexact⟩ := exactlyIndexed_of_flat hoperations hflat hstream
    obtain rfl := Option.some.inj (hids.symm.trans hentry)
    exact hexact

/-- A list that is stored late is listed with its manifest, which is not stored: these two are all
that the entry has. -/
theorem layerIndex_bounds_lateList :
    (∀ step ∈ lateList, ¬ step.2.UpdatesImage) ∧ (empty.after lateList).store.Flat ∧
      ∃ ids, (empty.after lateList).store.layerIndex? appKey = some ids ∧
        (∀ id, id ∈ ids ↔ id = "list" ∨ id = "part") ∧
        ∀ id, id ∈ ids ↔ (empty.after lateList).store.Lists stored id := by
  have hoperations : ∀ step ∈ lateList, ¬ step.2.UpdatesImage := by
    simp [lateList, Operation.UpdatesImage, Operation.request]
  have himage (name : String) : (empty.after lateList).store.image? name =
      if "list" = name then some (listOf "list" ["part"]) else none := by
    have hhistory : history lateList = [.image (listOf "list" ["part"]), .stream stored] := by
      rfl
    rw [store_after, hhistory, Store.replay_image, Store.image?_putImage]
    rfl
  have hflat : (empty.after lateList).store.Flat := by
    intro name parent hparent id hid image hstored
    rw [himage] at hparent hstored
    split at hparent
    next =>
      -- the only stored image is the list, and its manifest is not stored
      obtain rfl := Option.some.inj hparent
      obtain rfl : id = "part" := List.mem_singleton.1 hid
      rw [if_neg (by decide)] at hstored
      exact absurd hstored.symm (Option.some_ne_none image)
    next => exact absurd hparent.symm (Option.some_ne_none parent)
  have hstream : (empty.after lateList).store.streams[appKey]? = some stored := by
    decide +kernel
  have hentry : (empty.after lateList).store.layerIndex? appKey =
      some (.ofList ["list", "part"]) := by
    decide +kernel
  obtain ⟨-, hbounds⟩ := layerIndex_bounds lateList appKey
  obtain ⟨-, -, hexact⟩ := hbounds stored _ hstream hentry
  have hids (id : String) :
      id ∈ Std.ExtTreeSet.ofList ["list", "part"] ↔ id = "list" ∨ id = "part" := by
    simp
  exact ⟨hoperations, hflat, _, hentry, hids, hexact hoperations hflat⟩

end ControlPlane

end RegistryBench
