import RegistryBench.Proofs.ControlPlane.FilledReferences
import RegistryBench.Proofs.ControlPlane.LayerIndex
import RegistryBench.Proofs.Resource.TagHistories

/-!
# What mappings do

A mapping is refused when its stream is not stored and when its image is a manifest list whose
payload cannot be read, also if an image of the name is stored. Otherwise it is served: `Mapped`
says all that it then makes of the store.

* `serve_mapping`: a mapping is served when its stream is stored and the manifests of its image can
  be filled in.
* `mapping_effect` says for every run when a mapping is served and what it does.
-/

namespace RegistryBench

namespace Store

/-- Writing a stream makes its entry what it should be. -/
theorem exactlyIndexed_putStream (store : Store) (stream : ImageStream) :
    (store.putStream stream).ExactlyIndexed stream.key stream := by
  refine ⟨store.entryFor stream, ?_, fun id => ?_⟩
  · rw [layerIndex?_putStream, if_pos rfl]
  · exact (lists_iff_mem_entryFor store stream id).symm

/-- Keeping an image stores it where none of its name is. -/
theorem images_writeAll_keep (store : Store) (image : Image) :
    (store.writeAll (store.keep image)).images =
      if image.name ∈ store.images then store.images else store.images.insert image.name image := by
  unfold keep
  split
  · rfl
  · rfl

/-- Keeping an image that is new extends the entries that hold it. -/
theorem layerIndex?_writeAll_keep (store : Store) (image : Image) (key : StreamKey) :
    (store.writeAll (store.keep image)).layerIndex? key =
      if image.name ∈ store.images then store.layerIndex? key
      else (store.layerIndex? key).map (extend image) := by
  unfold keep
  split
  · rfl
  · exact store.layerIndex?_putImage image key

end Store

namespace ControlPlane

/-- The stream that a mapping is about. -/
def mappedKey (ns : String) (mapping : ImageStreamMapping) : StreamKey :=
  ⟨effectiveNamespace ns mapping.metadata.ns, mapping.metadata.name⟩

/-- The event that a mapping adds to its tag. -/
def mappingEvent (now : Timestamp) (mapping : ImageStreamMapping) : TagEvent :=
  .now now mapping.image.reference mapping.image.name

/-- What a mapping makes of a store: `stored` is the stream that it has found and `written` the
stream that it leaves behind. -/
structure Mapped (now : Timestamp) (key : StreamKey) (mapping : ImageStreamMapping)
    (expanded : Image) (stored written : ImageStream) (before after : Store) : Prop where
  /-- The image of the mapping has its references to manifests filled in. -/
  filled : mapping.image.Filled expanded
  /-- An image of its name stays as it is; otherwise the image is stored. -/
  images_eq : after.images =
    if mapping.image.name ∈ before.images then before.images
    else before.images.insert mapping.image.name expanded
  /-- The stream was stored. -/
  stored_eq : before.streams[key]? = some stored
  /-- The stream is stored again. -/
  written_eq : after.streams[key]? = some written
  /-- The histories of the tags have changed at most. -/
  rest_eq : written = { stored with status.tags := written.status.tags }
  /-- One event was added for the tag of the mapping. -/
  appended : ImageStream.Appended mapping.tag (mappingEvent now mapping) stored.status.tags
    written.status.tags
  /-- The index entry of the stream is exactly what it should be. -/
  indexed : after.ExactlyIndexed key written
  /-- Other streams stay as they are. -/
  others_eq : ∀ other, other ≠ key → after.streams[other]? = before.streams[other]?
  /-- The entries of other streams stay as they are, unless the image is new: then those that hold
  it get its manifests. -/
  entries_eq : ∀ other, other ≠ key → after.layerIndex? other =
    if mapping.image.name ∈ before.images then before.layerIndex? other
    else (before.layerIndex? other).map (Store.extend expanded)

section Effect

variable {store : Store} {ns : String} {mapping : ImageStreamMapping} {stored : ImageStream}

/-- A mapping into a stream that is not stored is refused, whatever its image is. -/
theorem effect_createMapping_of_absent (now : Timestamp)
    (habsent : store.streams[mappedKey ns mapping]? = none) :
    (Request.createMapping ns mapping).effect now store =
      (.error (.notFound .imageStream (mappedKey ns mapping).toText), []) := by
  rw [mappedKey] at habsent
  simp only [Request.effect, habsent]
  rfl

/-- A mapping of a manifest list that cannot be read is refused. -/
theorem effect_createMapping_of_unreadable (now : Timestamp) {fault : RequestFault}
    (hstored : store.streams[mappedKey ns mapping]? = some stored)
    (hexpand : mapping.image.expand = .error fault) :
    (Request.createMapping ns mapping).effect now store = (.error (.badRequest fault), []) := by
  rw [mappedKey] at hstored
  simp only [Request.effect, hstored, hexpand]

/-- What a mapping answers and writes when its stream is stored and the manifests of its image can
be filled in. -/
theorem effect_createMapping (now : Timestamp) {expanded : Image}
    (hstored : store.streams[mappedKey ns mapping]? = some stored)
    (hexpand : mapping.image.expand = .ok expanded) :
    (Request.createMapping ns mapping).effect now store =
      (.ok (.mapping { mapping with metadata.ns := (mappedKey ns mapping).ns }),
        .stream (stored.pushTagEvent mapping.tag (mappingEvent now mapping)) ::
          store.keep expanded) := by
  rw [mappedKey] at hstored
  simp only [Request.effect, hstored, hexpand]
  rfl

end Effect

/-- A mapping that is served makes of a store what `Mapped` says. -/
theorem mapped_writeAll {store : Store} (hstore : store.WellFormed) (now : Timestamp)
    {key : StreamKey} {mapping : ImageStreamMapping} {stored : ImageStream} {expanded : Image}
    (hstored : store.streams[key]? = some stored)
    (hexpand : mapping.image.expand = .ok expanded) :
    Mapped now key mapping expanded stored
      (stored.pushTagEvent mapping.tag (mappingEvent now mapping)) store
      ((store.writeAll (store.keep expanded)).putStream
        (stored.pushTagEvent mapping.tag (mappingEvent now mapping))) := by
  -- the stream is written under the key that it was found under
  have hfound : stored.key = key := hstore.stream_key hstored
  have hkey : (stored.pushTagEvent mapping.tag (mappingEvent now mapping)).key = key := hfound
  have hname : expanded.name = mapping.image.name := Image.name_of_expand hexpand
  exact {
    filled := Image.expand_eq_ok_iff.1 hexpand
    -- writing the stream leaves the images alone, so only keeping the image matters
    images_eq := by
      rw [Store.images_putStream, Store.images_writeAll_keep, hname]
    stored_eq := hstored
    written_eq := by
      rw [Store.streams_putStream, if_pos hkey]
    rest_eq := rfl
    appended := ImageStream.appended_pushInto _ _ _
    indexed := by
      have hindexed := Store.exactlyIndexed_putStream (store.writeAll (store.keep expanded))
        (stored.pushTagEvent mapping.tag (mappingEvent now mapping))
      rwa [hkey] at hindexed
    others_eq := fun other hother => by
      rw [Store.streams_putStream, hkey, if_neg hother.symm, Store.streams_writeAll_keep]
    -- another entry is not computed anew, but a new image extends it where it holds the image
    entries_eq := fun other hother => by
      rw [Store.layerIndex?_putStream, hkey, if_neg hother.symm, Store.layerIndex?_writeAll_keep,
        hname] }

/-- An operation that requests a mapping is served when the stream of the mapping is stored and the
manifests of its image can be filled in. -/
theorem serve_mapping {c : ControlPlane} (hc : c.store.WellFormed) (now : Timestamp)
    {operation : Operation} {ns : String} {mapping : ImageStreamMapping} {stored : ImageStream}
    {expanded : Image} (hrequest : operation.request = .createMapping ns mapping)
    (hstored : c.store.streams[mappedKey ns mapping]? = some stored)
    (hexpand : mapping.image.expand = .ok expanded) :
    let served := c.serve (perform now operation)
    served.1 = .ok (.mapping { mapping with metadata.ns := (mappedKey ns mapping).ns }) ∧
      Mapped now (mappedKey ns mapping) mapping expanded stored
        (stored.pushTagEvent mapping.tag (mappingEvent now mapping)) c.store served.2.store := by
  intro served
  have hanswer : served.1 = (operation.request.effect now c.store).1 :=
    answer_serve hc now operation
  have hafter : served.2.store = c.store.writeAll (operation.request.effect now c.store).2 :=
    store_serve hc now operation
  rw [hrequest, effect_createMapping now hstored hexpand] at hanswer hafter
  rw [hanswer, hafter]
  exact ⟨rfl, mapped_writeAll hc now hstored hexpand⟩

/-- A mapping is refused as not found when its stream is not stored, and as a bad request when it
is and the image is a manifest list that cannot be read. Otherwise it is served, and makes of the
store what `Mapped` says. -/
theorem mapping_effect (operations : List (Timestamp × Operation)) (now : Timestamp) (ns : String)
    (mapping : ImageStreamMapping) :
    let c := empty.after operations
    let key := mappedKey ns mapping
    let served := c.serve (perform now (.createMapping ns mapping))
    ((∃ resource name, served.1 = .error (.notFound resource name)) ↔
        c.store.streams[key]? = none) ∧
      ((∃ fault, served.1 = .error (.badRequest fault)) ↔
        c.store.streams[key]? ≠ none ∧ mapping.image.IsUnreadableList) ∧
      ((∃ outcome, served.1 = .ok outcome) ↔
        c.store.streams[key]? ≠ none ∧ ¬ mapping.image.IsUnreadableList) ∧
      ∀ outcome, served.1 = .ok outcome →
        outcome = .mapping { mapping with metadata.ns := key.ns } ∧
          ∃ expanded stored written,
            Mapped now key mapping expanded stored written c.store served.2.store := by
  intro c key served
  have hc : c.store.WellFormed := wellFormed_after operations
  have hanswer : served.1 = ((Request.createMapping ns mapping).effect now c.store).1 :=
    answer_serve hc now (.createMapping ns mapping)
  rw [← mapping.image.exists_expand_eq_error_iff]
  -- the answer follows from whether the stream is stored and, if so, the image can be filled in
  cases hstored : c.store.streams[key]? with
  | none =>
    rw [hanswer, effect_createMapping_of_absent now hstored]
    simp
  | some stored =>
    cases hexpand : mapping.image.expand with
    | error fault =>
      rw [hanswer, effect_createMapping_of_unreadable now hstored hexpand]
      simp
    | ok expanded =>
      have hrequest : (Operation.createMapping ns mapping).request =
          .createMapping ns mapping := rfl
      obtain ⟨hok, hmapped⟩ := serve_mapping hc now hrequest hstored hexpand
      have hserved : served.1 = .ok (.mapping { mapping with metadata.ns := key.ns }) := hok
      rw [hserved]
      refine ⟨by simp, by simp, by simp, fun outcome houtcome => ?_⟩
      exact ⟨(Except.ok.inj houtcome).symm, expanded, stored, _, hmapped⟩

section Index

/-- A stream is created. -/
def appCreated : List (Timestamp × Operation) :=
  [(⟨0, 0⟩, .createStream (.empty "test" "app"))]

/-- A request to point a tag of that stream at an image. -/
def latest (image : Image) : ImageStreamMapping :=
  { metadata := .named "test" "app", image, tag := "latest" }

/-- An index whose payload says nothing. -/
def unreadableIndex : Image :=
  { indexWith [] with manifest := "\x7b\x7d" }

/-- An index is mapped that refers to something else, and is stored with the reference that its
payload has. The tag gets an event for it. An index that cannot be read is not mapped. -/
theorem mapping_effect_index :
    let c := empty.after appCreated
    let given := indexWith [⟨"other", "type", 1, "", ""⟩]
    let expanded := indexWith [⟨"digest", "type", 3, "", ""⟩]
    let mapped := c.serve (perform ⟨1, 0⟩ (.createMapping "" (latest given)))
    let unreadable := c.serve (perform ⟨1, 0⟩ (.createMapping "" (latest unreadableIndex)))
    (∃ stored written,
      Mapped ⟨1, 0⟩ ⟨"test", "app"⟩ (latest given) expanded stored written c.store
        mapped.2.store) ∧
      mapped.2.store.image? "index" = some expanded ∧
      ∃ fault, unreadable.1 = .error (.badRequest fault) := by
  intro c given expanded mapped unreadable
  have hstored : c.store.streams[(⟨"test", "app"⟩ : StreamKey)]? ≠ none := by decide +kernel
  have hnew : (latest given).image.name ∉ c.store.images := by decide +kernel
  have hreadable : (ManifestList.codec.ofBytes? (Text.utf8 indexOfOne)).isSome := by decide +kernel
  have hunreadable : unreadableIndex.IsUnreadableList :=
    ⟨by decide +kernel, Option.isNone_iff_eq_none.1 (by decide +kernel)⟩
  have hkey (image : Image) : mappedKey "" (latest image) = ⟨"test", "app"⟩ := rfl
  obtain ⟨-, -, hok, hmapped⟩ := mapping_effect appCreated ⟨1, 0⟩ "" (latest given)
  obtain ⟨-, hbad, -⟩ := mapping_effect appCreated ⟨1, 0⟩ "" (latest unreadableIndex)
  rw [hkey] at hok hmapped hbad
  obtain ⟨outcome, houtcome⟩ := hok.2 ⟨hstored, fun h => Option.isSome_iff_ne_none.1 hreadable h.2⟩
  obtain ⟨-, filled, stored, written, hmapped⟩ := hmapped outcome houtcome
  -- there is one way to fill in the references of the index
  obtain rfl : filled = expanded := hmapped.filled.unique (filled_indexWith _)
  have himages : mapped.2.store.images = c.store.images.insert "index" expanded :=
    hmapped.images_eq.trans (if_neg hnew)
  refine ⟨⟨stored, written, hmapped⟩, ?_, hbad.2 ⟨hstored, hunreadable⟩⟩
  rw [Store.image?, himages, Std.ExtTreeMap.getElem?_insert_self]

end Index

end ControlPlane

end RegistryBench
