import RegistryBench.Proofs.ControlPlane.FirstEvents
import RegistryBench.Proofs.ControlPlane.Mappings
import RegistryBench.Proofs.ControlPlane.StreamWrites

/-!
# What new tags do

A request for a new tag is refused when its name joins no stream and tag, and when users have asked
for the tag already. Otherwise it is served, be the stream stored or not: `Tagged` says all that it
then makes of the store. The tag begins with one event, which `BeginsWith` reads off the request.

* `serve_createTag`: what is written for a new tag makes of the store what `Tagged` says.
* `tag_effect` says for every run when a new tag is served and what it does, and that it is refused
  from then on.
* `event_of_id_without_stream`: a source that names an id without a stream gives an empty event.
-/

namespace RegistryBench

namespace ImageStream

/-- A tag is found among those that users asked for when one of them has its name. -/
theorem isSome_specTag?_iff (stream : ImageStream) (tag : String) :
    (stream.specTag? tag).isSome ↔ ∃ reference ∈ stream.spec.tags, reference.name = tag := by
  simp [specTag?, List.find?_isSome]

/-- The names of the tags that users asked for. -/
def specNames (stream : ImageStream) : List String :=
  stream.spec.tags.map TagReference.name

end ImageStream

namespace Store

/-- What is stored under a key, or a new stream. -/
def streamOrEmpty (store : Store) (key : StreamKey) : ImageStream :=
  store.streams[key]?.getD (.empty key.ns key.name)

/-- Users asked for a tag of a stored stream. -/
def HasSpecTag (store : Store) (key : StreamKey) (tag : String) : Prop :=
  ∃ stored, store.streams[key]? = some stored ∧
    ∃ reference ∈ stored.spec.tags, reference.name = tag

/-- Nobody asked for tags of a stream that is not stored. -/
theorem isSome_specTag?_streamOrEmpty_iff (store : Store) (key : StreamKey) (tag : String) :
    ((store.streamOrEmpty key).specTag? tag).isSome ↔ store.HasSpecTag key tag := by
  rw [ImageStream.isSome_specTag?_iff, HasSpecTag, streamOrEmpty]
  cases store.streams[key]? with
  | none => simp [ImageStream.empty]
  | some stored => simp

/-- One stream has been written, and nothing else has changed. -/
structure OnlyWritten (key : StreamKey) (written : ImageStream) (before after : Store) : Prop where
  /-- The images stay as they are. -/
  images_eq : after.images = before.images
  /-- The stream is stored. -/
  written_eq : after.streams[key]? = some written
  /-- The index entry of the stream is exactly what it should be. -/
  indexed : after.ExactlyIndexed key written
  /-- Other streams stay as they are. -/
  others_eq : ∀ other, other ≠ key → after.streams[other]? = before.streams[other]?
  /-- The entries of other streams stay as they are. -/
  entries_eq : ∀ other, other ≠ key → after.layerIndex? other = before.layerIndex? other

/-- Storing a stream changes nothing but what is stored under its key, and its index entry. -/
theorem onlyWritten_putStream (store : Store) (stream : ImageStream) :
    OnlyWritten stream.key stream store (store.putStream stream) where
  images_eq := rfl
  written_eq := by rw [streams_putStream, if_pos rfl]
  indexed := store.exactlyIndexed_putStream stream
  others_eq other hother := by rw [streams_putStream, if_neg hother.symm]
  entries_eq other hother := by rw [layerIndex?_putStream, if_neg hother.symm]

end Store

namespace ControlPlane

/-- The tag that a request asks for, under its own name. -/
def newSpecTag (tag : String) (request : ImageStreamTag) : TagReference :=
  { request.tag.getD {} with name := tag }

/-- What a new tag makes of a store: `written` is the stream that it leaves behind. -/
structure Tagged (now : Timestamp) (key : StreamKey) (tag : String) (request : ImageStreamTag)
    (written : ImageStream) (before after : Store) : Prop where
  /-- The stream is written, and nothing else. -/
  only_written : Store.OnlyWritten key written before after
  /-- The tag comes behind those that users asked for before. -/
  spec_eq : written.spec.tags =
    (before.streamOrEmpty key).spec.tags ++ [newSpecTag tag request]
  /-- One event was added for the tag. -/
  appended : ∃ event, BeginsWith now request event ∧
    ImageStream.Appended tag event (before.streamOrEmpty key).status.tags written.status.tags
  /-- What was stored keeps its time of creation, and a new stream is created now. -/
  created_eq : written.metadata.created =
    some ((before.streamOrEmpty key).metadata.created.getD now)
  /-- Nothing else about the stream has changed. -/
  rest_eq : written = { before.streamOrEmpty key with
    metadata.created := written.metadata.created
    spec.tags := written.spec.tags
    status.tags := written.status.tags }

/-- The stream that a new tag leaves behind. -/
def taggedStream (now : Timestamp) (tag : String) (request : ImageStreamTag)
    (stream : ImageStream) : ImageStream :=
  Store.stamp
    ((stream.addSpecTag (newSpecTag tag request)).pushTagEvent tag (tagEvent now request))
    (some (stream.metadata.created.getD now))

/-- Writing the stream that a new tag leaves behind makes of a store what `Tagged` says. -/
theorem tagged_putStream {store : Store} (hstore : store.WellFormed) (now : Timestamp)
    (key : StreamKey) (tag : String) (request : ImageStreamTag) :
    let written := taggedStream now tag request (store.streamOrEmpty key)
    Tagged now key tag request written store (store.putStream written) := by
  intro written
  -- a stream is stored under what its metadata says, and tags do not touch that
  have hkey : written.key = key := key_getD_empty hstore key
  have honly := store.onlyWritten_putStream written
  rw [hkey] at honly
  exact {
    only_written := honly
    spec_eq := rfl
    appended := ⟨_, beginsWith_tagEvent now request, ImageStream.appended_pushInto _ _ _⟩
    created_eq := rfl
    rest_eq := rfl }

section Effect

variable (now : Timestamp) {store : Store} {ns : String} {request : ImageStreamTag}

/-- The stream of some name that a request for a new tag is about. -/
def taggedKey (ns : String) (request : ImageStreamTag) (stream : String) : StreamKey :=
  ⟨effectiveNamespace ns request.metadata.ns, stream⟩

/-- A request whose name joins no stream and tag is refused. -/
theorem effect_createTag_of_unsplit (hsplit : Name.splitTag? request.metadata.name = none) :
    (Request.createTag ns request).effect now store =
      (.error (.badRequest (.tagName request.metadata.name)), []) := by
  simp only [Request.effect, hsplit]

variable {stream tag : String} (hsplit : Name.splitTag? request.metadata.name = some (stream, tag))
include hsplit

/-- A tag that users asked for already is refused. -/
theorem effect_createTag_of_hasSpecTag
    (htaken : store.HasSpecTag (taggedKey ns request stream) tag) :
    (Request.createTag ns request).effect now store =
      (.error (.alreadyExists .imageStreamTag request.metadata.name), []) := by
  rw [← Store.isSome_specTag?_streamOrEmpty_iff, Store.streamOrEmpty, taggedKey] at htaken
  simp only [Request.effect, hsplit, if_pos htaken]

/-- What a new tag answers and writes when users did not ask for it before. -/
theorem effect_createTag (hfree : ¬ store.HasSpecTag (taggedKey ns request stream) tag) :
    let key := taggedKey ns request stream
    let written := taggedStream now tag request (store.streamOrEmpty key)
    (Request.createTag ns request).effect now store =
      (.ok (.tag {
          metadata := { request.metadata with ns := key.ns, created := written.metadata.created }
          tag := some (newSpecTag tag request)
          image := request.image }),
        [.stream written]) := by
  rw [← Store.isSome_specTag?_streamOrEmpty_iff, Store.streamOrEmpty, taggedKey] at hfree
  simp only [Request.effect, hsplit, if_neg hfree]
  rfl

end Effect

namespace Tagged

variable {now : Timestamp} {key : StreamKey} {tag : String} {request : ImageStreamTag}
  {written : ImageStream} {before after : Store}

/-- The tag is one that users asked for. -/
theorem hasSpecTag (h : Tagged now key tag request written before after) :
    after.HasSpecTag key tag := by
  refine ⟨written, h.only_written.written_eq, newSpecTag tag request, ?_, rfl⟩
  rw [h.spec_eq]
  exact List.mem_append_right _ (List.mem_singleton_self _)

/-- The tags of every stream have different names when they had before, and the tag is new. -/
theorem nodup_specNames (h : Tagged now key tag request written before after)
    (hfree : ¬ before.HasSpecTag key tag) {other : StreamKey}
    (hnodup : (before.streamOrEmpty other).specNames.Nodup) :
    (after.streamOrEmpty other).specNames.Nodup := by
  by_cases hother : other = key
  · subst hother
    -- the name of the new tag comes behind the old ones
    have hnames : (after.streamOrEmpty other).specNames =
        (before.streamOrEmpty other).specNames ++ [tag] := by
      rw [Store.streamOrEmpty, h.only_written.written_eq, Option.getD_some, ImageStream.specNames,
        h.spec_eq, List.map_append]
      rfl
    -- the new name is not among the old ones
    have hnew : tag ∉ (before.streamOrEmpty other).specNames := by
      rwa [← Store.isSome_specTag?_streamOrEmpty_iff, ImageStream.isSome_specTag?_iff,
        ← List.mem_map] at hfree
    rw [hnames, List.nodup_append]
    refine ⟨hnodup, List.pairwise_singleton _ _, fun old hold added hadded => ?_⟩
    rw [List.mem_singleton.1 hadded]
    exact ne_of_mem_of_not_mem hold hnew
  · rwa [Store.streamOrEmpty, h.only_written.others_eq other hother]

end Tagged

section Serve

variable {c : ControlPlane} (hc : c.store.WellFormed) (now : Timestamp) {ns : String}
  {request : ImageStreamTag}
include hc

/-- A request whose name joins no stream and tag is refused, and nothing changes. -/
theorem serve_createTag_of_unsplit (hsplit : Name.splitTag? request.metadata.name = none) :
    let served := c.serve (perform now (.createTag ns request))
    served.1 = .error (.badRequest (.tagName request.metadata.name)) ∧
      served.2.store = c.store :=
  serve_of_effect hc now (.createTag ns request) (effect_createTag_of_unsplit now hsplit)

variable {stream tag : String} (hsplit : Name.splitTag? request.metadata.name = some (stream, tag))
include hsplit

/-- A tag that users asked for already is refused, and nothing changes. -/
theorem serve_createTag_of_hasSpecTag
    (htaken : c.store.HasSpecTag (taggedKey ns request stream) tag) :
    let served := c.serve (perform now (.createTag ns request))
    served.1 = .error (.alreadyExists .imageStreamTag request.metadata.name) ∧
      served.2.store = c.store :=
  serve_of_effect hc now (.createTag ns request) (effect_createTag_of_hasSpecTag now hsplit htaken)

/-- A tag that users did not ask for before is served. -/
theorem serve_createTag (hfree : ¬ c.store.HasSpecTag (taggedKey ns request stream) tag) :
    let served := c.serve (perform now (.createTag ns request))
    let key := taggedKey ns request stream
    let written := taggedStream now tag request (c.store.streamOrEmpty key)
    served.1 = .ok (.tag {
        metadata := { request.metadata with ns := key.ns, created := written.metadata.created }
        tag := some (newSpecTag tag request)
        image := request.image }) ∧
      Tagged now key tag request written c.store served.2.store := by
  intro served key written
  obtain ⟨hanswer, hafter⟩ : served.1 = _ ∧ served.2.store = c.store.putStream written :=
    serve_of_effect hc now (.createTag ns request) (effect_createTag now hsplit hfree)
  rw [hanswer, hafter]
  exact ⟨rfl, tagged_putStream hc now key tag request⟩

end Serve

/-- In every reachable store, a request for a new tag is refused as a bad request when its name
joins no stream and tag, and as existing already when it does and users asked for that tag of the
stream before. Otherwise it is served, makes of the store what `Tagged` says, and is refused as
existing already from then on, with nothing changed. Tags of a stream that have different names
keep different names. -/
theorem tag_effect (operations : List (Timestamp × Operation)) (now : Timestamp) (ns : String)
    (request : ImageStreamTag) :
    let c := empty.after operations
    let name := request.metadata.name
    let key := taggedKey ns request
    let served := c.serve (perform now (.createTag ns request))
    ((∃ fault, served.1 = .error (.badRequest fault)) ↔
        ∀ stream tag, ¬ Name.JoinsTag name stream tag) ∧
      ((∃ resource existing, served.1 = .error (.alreadyExists resource existing)) ↔
        ∃ stream tag, Name.JoinsTag name stream tag ∧ c.store.HasSpecTag (key stream) tag) ∧
      ((∃ outcome, served.1 = .ok outcome) ↔
        ∃ stream tag, Name.JoinsTag name stream tag ∧ ¬ c.store.HasSpecTag (key stream) tag) ∧
      (∀ outcome, served.1 = .ok outcome → ∃ stream tag written,
        Name.JoinsTag name stream tag ∧
          Tagged now (key stream) tag request written c.store served.2.store ∧
          outcome = .tag {
            metadata :=
              { request.metadata with ns := (key stream).ns, created := written.metadata.created }
            tag := some (newSpecTag tag request)
            image := request.image } ∧
          ∀ later, let again := served.2.serve (perform later (.createTag ns request))
            again.1 = .error (.alreadyExists .imageStreamTag name) ∧
              again.2.store = served.2.store) ∧
      ∀ other, (c.store.streamOrEmpty other).specNames.Nodup →
        (served.2.store.streamOrEmpty other).specNames.Nodup := by
  intro c name key served
  have hc : c.store.WellFormed := wellFormed_after operations
  -- joining a stream and a tag is being split into them, which is what the service tries
  simp only [← Name.splitTag?_eq_some_iff, name]
  cases hsplit : Name.splitTag? request.metadata.name with
  | none =>
    -- a bad request
    obtain ⟨hfailed, hsame⟩ : served.1 = _ ∧ served.2.store = _ :=
      serve_createTag_of_unsplit hc now hsplit
    rw [hfailed, hsame]
    simp
  | some halves =>
    obtain ⟨stream, tag⟩ := halves
    by_cases htaken : c.store.HasSpecTag (key stream) tag
    · -- a tag that exists
      obtain ⟨hfailed, hsame⟩ : served.1 = _ ∧ served.2.store = _ :=
        serve_createTag_of_hasSpecTag hc now hsplit htaken
      rw [hfailed, hsame]
      simp [htaken]
    · -- a new tag
      obtain ⟨hok, htagged⟩ : served.1 = _ ∧ Tagged _ _ _ _ _ _ served.2.store :=
        serve_createTag hc now hsplit htaken
      have hserved : served.2.store.WellFormed := by
        rw [store_serve hc now (.createTag ns request)]
        exact wellFormed_effect hc now _
      refine ⟨by simp [hok], by simp [hok, htaken], by simp [hok, htaken], ?_, ?_⟩
      · intro outcome houtcome
        refine ⟨stream, tag, _, rfl, htagged, ?_, fun later => ?_⟩
        · exact (Except.ok.inj (hok.symm.trans houtcome)).symm
        · -- the tag is one that users asked for now
          exact serve_createTag_of_hasSpecTag hserved later hsplit htagged.hasSpecTag
      · exact fun other hnodup => htagged.nodup_specNames htaken hnodup

section NewTags

/-- A request for a tag of the stream that comes from an image as seen through a stream. -/
def tagFrom (source : String) : ImageStreamTag :=
  { metadata := .named "test" "app:latest"
    tag := some { name := "other", source := some ⟨ObjectReference.streamImageKind, "", source⟩ }
    image := {} }

/-- The stream gets the tag, under the name that the request has, and does not get it again. -/
theorem tag_effect_latest :
    let c := empty.after appCreated
    let request := tagFrom "web@sha256:abcdef"
    let served := c.serve (perform ⟨1, 0⟩ (.createTag "" request))
    Name.JoinsTag "app:latest" "app" "latest" ∧
      ¬ c.store.HasSpecTag ⟨"test", "app"⟩ "latest" ∧
      ∃ written, Tagged ⟨1, 0⟩ ⟨"test", "app"⟩ "latest" request written c.store served.2.store ∧
        (served.2.serve (perform ⟨2, 0⟩ (.createTag "" request))).1 =
          .error (.alreadyExists .imageStreamTag "app:latest") := by
  intro c request served
  have hjoins : Name.JoinsTag "app:latest" "app" "latest" :=
    ⟨by decide, by decide, by decide, by decide⟩
  have hfree : ¬ c.store.HasSpecTag ⟨"test", "app"⟩ "latest" := by
    rw [← Store.isSome_specTag?_streamOrEmpty_iff]
    decide +kernel
  obtain ⟨-, -, hok, hserved, -⟩ := tag_effect appCreated ⟨1, 0⟩ "" request
  obtain ⟨outcome, houtcome⟩ := hok.2 ⟨"app", "latest", hjoins, hfree⟩
  obtain ⟨stream, tag, written, hjoins', htagged, -, hagain⟩ := hserved outcome houtcome
  -- the name joins no other stream and tag
  have hsplit := Name.splitTag?_eq_some_iff.2 hjoins
  have hsplit' := Name.splitTag?_eq_some_iff.2 hjoins'
  obtain ⟨rfl, rfl⟩ := Prod.mk.inj (Option.some.inj (hsplit'.symm.trans hsplit))
  exact ⟨hjoins, hfree, written, htagged, (hagain ⟨2, 0⟩).1⟩

/-- The source of a new tag has an id behind its first `@`, and no stream in front. The tag begins
with an event that names nothing. -/
theorem event_of_id_without_stream :
    let request := tagFrom "@sha256:abcdef"
    let served := (empty.after appCreated).serve (perform ⟨1, 0⟩ (.createTag "" request))
    request.image.name = "" ∧
      request.tag.bind TagReference.source =
        some ⟨ObjectReference.streamImageKind, "", "@sha256:abcdef"⟩ ∧
      Text.cut? '@' "@sha256:abcdef" = some ("", "sha256:abcdef") ∧
      (served.2.store.streams[(⟨"test", "app"⟩ : StreamKey)]?.map (·.tagEvents "latest")) =
        some [.now ⟨1, 0⟩ "" ""] := by
  decide +kernel

end NewTags

end ControlPlane

end RegistryBench
