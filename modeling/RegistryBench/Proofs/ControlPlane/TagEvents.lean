import Mathlib.Data.List.Forall2
import RegistryBench.Proofs.ControlPlane.FirstEvents
import RegistryBench.Proofs.ControlPlane.StreamWrites
import RegistryBench.Proofs.ControlPlane.Transcript

/-!
# The history of a tag

Mappings and new tags add one event each to the history of their tag, and nothing else does, as
long as nobody replaces the whole stream. So the history of a tag can be read off the transcript of
a run: it begins with what the stream was created with, and goes on with the events of what was
served, in the order of the run.

* `Request.AddsTo` says which requests add to the history of a tag, and `Request.Records` what the
  event says that each of them adds.
* `Recorded` ties what is stored to the transcript; every operation keeps it.
* `tagEvents_after` reads the history of a tag off the transcript of any run.
-/

namespace RegistryBench.ControlPlane

namespace Request

/-- The stream that a request, when it is served, stores as a new one under a key. -/
def creation? (key : StreamKey) : Request → Option ImageStream
  | .createStream stream => if stream.key = key then some stream else none
  | _ => none

/-- A request that adds to the history of a tag: a mapping into the tag, or a new tag of that
name. -/
def AddsTo (key : StreamKey) (tag : String) : Request → Prop
  | .createMapping ns mapping =>
    effectiveNamespace ns mapping.metadata.ns = key.ns ∧ mapping.metadata.name = key.name ∧
      mapping.tag = tag
  | .createTag ns request =>
    effectiveNamespace ns request.metadata.ns = key.ns ∧
      Name.JoinsTag request.metadata.name key.name tag
  | _ => False

instance (key : StreamKey) (tag : String) (request : Request) :
    Decidable (request.AddsTo key tag) := by
  cases request <;> unfold AddsTo <;> infer_instance

/-- What a request that adds to the history of a tag records there at some time: a mapping the
reference and the name of its image, and a new tag what it begins with. -/
inductive Records (now : Timestamp) : Request → TagEvent → Prop
  /-- A mapping records its image. -/
  | mapping {ns : String} {mapping : ImageStreamMapping} :
      Records now (.createMapping ns mapping)
        (.now now mapping.image.reference mapping.image.name)
  /-- A new tag records the image that it embeds, or else where it comes from. -/
  | newTag {ns : String} {request : ImageStreamTag} {event : TagEvent}
      (hbegins : BeginsWith now request event) : Records now (.createTag ns request) event

/-- A mapping records one event: the reference and the name of its image. -/
@[simp]
theorem records_createMapping_iff {now : Timestamp} {ns : String} {mapping : ImageStreamMapping}
    {event : TagEvent} : (createMapping ns mapping).Records now event ↔
      event = .now now mapping.image.reference mapping.image.name := by
  constructor
  · rintro ⟨⟩
    rfl
  · rintro rfl
    exact .mapping

/-- A new tag records an event that it begins with. -/
@[simp]
theorem records_createTag_iff {now : Timestamp} {ns : String} {request : ImageStreamTag}
    {event : TagEvent} : (createTag ns request).Records now event ↔
      BeginsWith now request event := by
  constructor
  · rintro ⟨⟩
    assumption
  · exact .newTag

/-- The event that a request makes of what it carries. -/
def ownEvent? (now : Timestamp) : Request → Option TagEvent
  | .createMapping _ mapping => some (.now now mapping.image.reference mapping.image.name)
  | .createTag _ request => some (tagEvent now request)
  | _ => none

/-- The event that a request, when it is served at some time, adds to a tag of a stream. -/
def event? (now : Timestamp) (key : StreamKey) (tag : String) (request : Request) :
    Option TagEvent :=
  if request.AddsTo key tag then request.ownEvent? now else none

/-- No event is added by just those requests that do not add to the history. -/
theorem event?_eq_none_iff {now : Timestamp} {key : StreamKey} {tag : String} {request : Request} :
    request.event? now key tag = none ↔ ¬ request.AddsTo key tag := by
  rw [event?]
  split
  next hadds =>
    refine iff_of_false (fun hnone => ?_) (not_not.2 hadds)
    cases request with
    | createMapping ns mapping => exact Option.some_ne_none _ hnone
    | createTag ns request => exact Option.some_ne_none _ hnone
    | _ => exact hadds
  next hadds => exact iff_of_true rfl hadds

/-- The event that is added is what the request records. -/
theorem records_of_event? {now : Timestamp} {key : StreamKey} {tag : String} {request : Request}
    {event : TagEvent} (h : request.event? now key tag = some event) :
    request.Records now event := by
  have hown : request.ownEvent? now = some event := by
    rw [event?, Option.ite_none_right_eq_some] at h
    exact h.2
  cases request with
  | createMapping ns mapping =>
    obtain rfl := Option.some.inj hown
    exact .mapping
  | createTag ns request =>
    obtain rfl := Option.some.inj hown
    exact .newTag (beginsWith_tagEvent now request)
  | _ => contradiction

/-- A request for another stream neither creates this one nor adds an event to it. -/
theorem nothing_of_key?_ne {request : Request} {key : StreamKey} (h : request.key? ≠ some key)
    (now : Timestamp) (tag : String) :
    request.creation? key = none ∧ request.event? now key tag = none := by
  rw [event?_eq_none_iff]
  cases request with
  | createStream stream =>
    have hne : stream.key ≠ key := fun heq => h (congrArg some heq)
    exact ⟨if_neg hne, id⟩
  | createMapping ns mapping =>
    refine ⟨rfl, ?_⟩
    rintro ⟨hns, hname, -⟩
    exact h (by rw [key?, hns, hname])
  | createTag ns request =>
    refine ⟨rfl, ?_⟩
    rintro ⟨hns, hjoins⟩
    exact h (by rw [key?, Name.splitTag?_eq_some_iff.2 hjoins, Option.map_some, hns])
  | _ => exact ⟨rfl, id⟩

/-- What a request that does not replace a stream leaves of the history of a tag: that of a stream
which is new, or the old one with the event that the request adds. -/
theorem tagEvents_of_writes {now : Timestamp} {key : StreamKey} {before : Option ImageStream}
    {request : Request} {stream : ImageStream} (h : request.Writes now key before stream)
    (hupdate : ∀ replacement, request ≠ .updateStream replacement) (tag : String) :
    (∃ created, before = none ∧ request.creation? key = some created ∧
        request.event? now key tag = none ∧ stream.tagEvents tag = created.tagEvents tag) ∨
      (request.creation? key = none ∧
        stream.tagEvents tag =
          (before.map (·.tagEvents tag)).getD [] ++ (request.event? now key tag).toList) := by
  cases h with
  | @createStream stream hkey hnew =>
    exact Or.inl ⟨stream, hnew, if_pos hkey, event?_eq_none_iff.2 id, rfl⟩
  | @updateStream stream stored hkey hstored => exact absurd rfl (hupdate stream)
  | @createMapping ns mapping stored hns hname hstored =>
    refine Or.inr ⟨rfl, ?_⟩
    rw [ImageStream.tagEvents_pushTagEvent, hstored, Option.map_some, Option.getD_some]
    by_cases htag : mapping.tag = tag
    · simp [event?, AddsTo, ownEvent?, htag, hns, hname]
    · simp [event?, AddsTo, htag]
  | @createTag ns request added found hns hname hstream hfree =>
    refine Or.inr ⟨rfl, ?_⟩
    -- a stream that is not stored yet has no events
    have hfound : found.tagEvents tag = (before.map (·.tagEvents tag)).getD [] := by
      subst hstream
      cases before with
      | none => rfl
      | some stored => rfl
    have hstamp (stream : ImageStream) (created : Option Timestamp) :
        (Store.stamp stream created).tagEvents tag = stream.tagEvents tag := rfl
    rw [hstamp, ImageStream.tagEvents_pushTagEvent, ImageStream.tagEvents_addSpecTag, hfound]
    by_cases htag : added = tag
    · simp [event?, AddsTo, ownEvent?, ← Name.splitTag?_eq_some_iff, htag, hns, hname]
    · simp [event?, AddsTo, ← Name.splitTag?_eq_some_iff, htag, hname]

end Request

namespace Exchange

/-- The stream that an exchange has stored as a new one under a key. -/
def creation? (key : StreamKey) (exchange : Exchange) : Option ImageStream :=
  exchange.served?.bind (Request.creation? key)

/-- The event that an exchange has added to a tag of a stream. -/
def event? (key : StreamKey) (tag : String) (exchange : Exchange) : Option TagEvent :=
  exchange.served?.bind (Request.event? exchange.now key tag)

/-- A request that adds to the history of a tag was served. -/
def AddsTo (key : StreamKey) (tag : String) (exchange : Exchange) : Prop :=
  exchange.answer.isOk ∧ exchange.operation.request.AddsTo key tag

instance (key : StreamKey) (tag : String) (exchange : Exchange) :
    Decidable (exchange.AddsTo key tag) :=
  inferInstanceAs (Decidable (exchange.answer.isOk ∧ exchange.operation.request.AddsTo key tag))

/-- The event says what the request of the exchange records, at the time of the exchange. -/
def Records (exchange : Exchange) (event : TagEvent) : Prop :=
  exchange.operation.request.Records exchange.now event

/-- No event was added by just those exchanges that do not add to the history. -/
theorem event?_eq_none_iff {key : StreamKey} {tag : String} {exchange : Exchange} :
    exchange.event? key tag = none ↔ ¬ exchange.AddsTo key tag := by
  obtain ⟨now, operation, answer⟩ := exchange
  cases answer with
  | error e => exact iff_of_true rfl fun hadds => Bool.false_ne_true hadds.1
  | ok outcome =>
    have hiff : (Exchange.mk now operation (.ok outcome)).AddsTo key tag ↔
        operation.request.AddsTo key tag := and_iff_right rfl
    rw [hiff]
    exact Request.event?_eq_none_iff

/-- The event that was added is what the exchange records. -/
theorem records_of_event? {key : StreamKey} {tag : String} {exchange : Exchange} {event : TagEvent}
    (h : exchange.event? key tag = some event) : exchange.Records event := by
  obtain ⟨now, operation, answer⟩ := exchange
  cases answer with
  | error e => contradiction
  | ok outcome => exact Request.records_of_event? h

/-- A request for a stream was served. -/
def Serves (key : StreamKey) (exchange : Exchange) : Prop :=
  ∃ request, exchange.served? = some request ∧ request.key? = some key

/-- An operation that was answered has served a request for a stream when the request names that
stream. -/
theorem serves_ok_iff (now : Timestamp) (operation : Operation) (outcome : Outcome)
    (key : StreamKey) :
    (Exchange.mk now operation (.ok outcome)).Serves key ↔ operation.request.key? = some key := by
  constructor
  · rintro ⟨request, hserved, hkey⟩
    rw [served?_ok, Option.some.injEq] at hserved
    exact hserved ▸ hkey
  · exact fun hkey => ⟨_, rfl, hkey⟩

/-- An operation that has failed served no request. -/
theorem not_serves_error (now : Timestamp) (operation : Operation) (e : Error) (key : StreamKey) :
    ¬ (Exchange.mk now operation (.error e)).Serves key := by
  rintro ⟨request, hserved, -⟩
  rw [served?_error] at hserved
  contradiction

/-- A stream was created: as a new stream, or for a new tag of it. -/
def Creates (key : StreamKey) (exchange : Exchange) : Prop :=
  exchange.Serves key ∧
    ((∃ stream, exchange.operation.request = .createStream stream) ∨
      ∃ ns tag, exchange.operation.request = .createTag ns tag)

/-- A stream was replaced as a whole. -/
def Replaces (key : StreamKey) (exchange : Exchange) : Prop :=
  exchange.Serves key ∧ ∃ stream, exchange.operation.request = .updateStream stream

/-- An exchange that has served no request for a stream has neither created it nor added an event
to it. -/
theorem nothing_of_not_serves {key : StreamKey} {exchange : Exchange} (h : ¬ exchange.Serves key)
    (tag : String) : exchange.creation? key = none ∧ exchange.event? key tag = none := by
  rw [creation?, event?]
  cases hserved : exchange.served? with
  | none => exact ⟨rfl, rfl⟩
  | some request =>
    have hkey : request.key? ≠ some key := fun hkey => h ⟨request, hserved, hkey⟩
    exact Request.nothing_of_key?_ne hkey exchange.now tag

end Exchange

/-- The events that a stream was created with for a tag: none when it was created for a new tag. -/
def initialEvents (key : StreamKey) (tag : String) (transcript : List Exchange) : List TagEvent :=
  ((transcript.findSome? (Exchange.creation? key)).map (·.tagEvents tag)).getD []

/-- The events that were added to a tag of a stream, oldest first. -/
def addedEvents (key : StreamKey) (tag : String) (transcript : List Exchange) : List TagEvent :=
  transcript.filterMap (Exchange.event? key tag)

/-- One more exchange adds one event at most, behind the others. -/
theorem addedEvents_concat (key : StreamKey) (tag : String) (transcript : List Exchange)
    (exchange : Exchange) :
    addedEvents key tag (transcript ++ [exchange]) =
      addedEvents key tag transcript ++ (exchange.event? key tag).toList :=
  filterMap_concat _ _ _

/-- Each exchange that adds to the history of a tag has added one event, which is what it records.
-/
theorem forall₂_addedEvents (key : StreamKey) (tag : String) (transcript : List Exchange) :
    List.Forall₂ Exchange.Records (transcript.filter (·.AddsTo key tag))
      (addedEvents key tag transcript) := by
  unfold addedEvents
  induction transcript with
  | nil => exact .nil
  | cons exchange transcript ih =>
    cases hevent : exchange.event? key tag with
    | none =>
      have hadds : ¬ exchange.AddsTo key tag := Exchange.event?_eq_none_iff.1 hevent
      -- neither list grows
      rw [List.filterMap_cons_none hevent, List.filter_cons_of_neg (by simpa using hadds)]
      exact ih
    | some event =>
      have hadds : exchange.AddsTo key tag := by
        by_contra hadds
        exact Option.some_ne_none _ (hevent.symm.trans (Exchange.event?_eq_none_iff.2 hadds))
      -- both lists grow by one, and the event is what the exchange records
      rw [List.filterMap_cons_some hevent, List.filter_cons_of_pos (by simpa using hadds)]
      exact .cons (Exchange.records_of_event? hevent) ih

/-- Only the first creation of a stream says what it was created with. -/
theorem initialEvents_concat (key : StreamKey) (tag : String) (transcript : List Exchange)
    (exchange : Exchange) :
    initialEvents key tag (transcript ++ [exchange]) =
      (((transcript.findSome? (Exchange.creation? key)).or (exchange.creation? key)).map
        (·.tagEvents tag)).getD [] := by
  rw [initialEvents, List.findSome?_append, List.findSome?_singleton]

/-- An exchange that creates no stream leaves what streams were created with. -/
theorem initialEvents_concat_of_none {key : StreamKey} {exchange : Exchange}
    (h : exchange.creation? key = none) (tag : String) (transcript : List Exchange) :
    initialEvents key tag (transcript ++ [exchange]) = initialEvents key tag transcript := by
  rw [initialEvents_concat, h, Option.or_none, initialEvents]

/-- What a transcript says of a stream is what is stored. -/
structure Recorded (key : StreamKey) (transcript : List Exchange) (store : Store) : Prop where
  /-- No request for a stream that is not stored was served. -/
  absent : store.streams[key]? = none → ∀ exchange ∈ transcript, ¬ exchange.Serves key
  /-- The history of a tag is that of the transcript. -/
  tagEvents_eq : ∀ tag, (store.streams[key]?.map (·.tagEvents tag)).getD [] =
    initialEvents key tag transcript ++ addedEvents key tag transcript

/-- Before anything was done, no stream is stored and nothing is said of any. -/
theorem recorded_empty (key : StreamKey) : Recorded key [] .empty where
  absent _ _ hmem := absurd hmem List.not_mem_nil
  tagEvents_eq tag := by simp [Store.empty, initialEvents, addedEvents]

namespace Recorded

variable {key : StreamKey} {transcript : List Exchange} {store store' : Store}

/-- The transcript says nothing of a stream that is not stored. -/
theorem nothing (h : Recorded key transcript store) (hnone : store.streams[key]? = none)
    (tag : String) :
    transcript.findSome? (Exchange.creation? key) = none ∧
      addedEvents key tag transcript = [] := by
  have hnothing (exchange : Exchange) (hmem : exchange ∈ transcript) :=
    Exchange.nothing_of_not_serves (h.absent hnone exchange hmem) tag
  constructor
  · exact List.findSome?_eq_none_iff.2 fun exchange hmem => (hnothing exchange hmem).1
  · exact List.filterMap_eq_nil_iff.2 fun exchange hmem => (hnothing exchange hmem).2

/-- Where an exchange leaves a stream alone, what is said of the stream stays true. -/
theorem concat_of_not_serves (h : Recorded key transcript store) {exchange : Exchange}
    (hsame : store'.streams[key]? = store.streams[key]?) (hserves : ¬ exchange.Serves key) :
    Recorded key (transcript ++ [exchange]) store' where
  absent hnone other hmem := by
    obtain hmem | hmem := List.mem_append.1 hmem
    · exact h.absent (hsame.symm.trans hnone) other hmem
    · exact List.mem_singleton.1 hmem ▸ hserves
  tagEvents_eq tag := by
    obtain ⟨hcreation, hevent⟩ := exchange.nothing_of_not_serves hserves tag
    rw [hsame, initialEvents_concat_of_none hcreation, addedEvents_concat, hevent,
      Option.toList_none, List.append_nil]
    exact h.tagEvents_eq tag

/-- A request for a stream that is served makes of the history of each tag what the transcript
then says, unless the stream is replaced. -/
theorem concat_of_effect (h : Recorded key transcript store) (hstore : store.WellFormed)
    {now : Timestamp} {operation : Operation} {outcome : Outcome}
    (hok : (operation.request.effect now store).1 = .ok outcome)
    (hkey : operation.request.key? = some key)
    (hreplaces : ¬ (Exchange.mk now operation (.ok outcome)).Replaces key) :
    Recorded key (transcript ++ [⟨now, operation, .ok outcome⟩])
      (store.writeAll (operation.request.effect now store).2) := by
  obtain ⟨stream, hwrites, hstored⟩ := writes_of_effect hstore hok hkey
  refine ⟨fun hnone => absurd (hstored.symm.trans hnone) (Option.some_ne_none _), fun tag => ?_⟩
  have hupdate (replacement : ImageStream) : operation.request ≠ .updateStream replacement :=
    fun heq => hreplaces ⟨⟨_, rfl, hkey⟩, replacement, heq⟩
  have hevent : (Exchange.mk now operation (.ok outcome)).event? key tag =
      operation.request.event? now key tag := rfl
  have hcreation : (Exchange.mk now operation (.ok outcome)).creation? key =
      operation.request.creation? key := rfl
  rw [hstored, Option.map_some, Option.getD_some, addedEvents_concat, hevent]
  obtain ⟨created, hnew, hcreated, hnone, heq⟩ | ⟨hnone, heq⟩ :=
    Request.tagEvents_of_writes hwrites hupdate tag
  · -- the stream is new, so nothing has been said of it before
    obtain ⟨hinitial, hadded⟩ := h.nothing hnew tag
    rw [heq, initialEvents_concat, hinitial, hcreation, hcreated, hadded, hnone]
    simp
  · rw [heq, initialEvents_concat_of_none (hcreation.trans hnone), h.tagEvents_eq tag,
      List.append_assoc]

end Recorded

/-- Where nobody replaces a stream, the transcript says what its tags hold. -/
theorem recorded_after (operations : List (Timestamp × Operation)) (key : StreamKey)
    (hreplaces : ∀ exchange ∈ empty.transcript operations, ¬ exchange.Replaces key) :
    Recorded key (empty.transcript operations) (empty.after operations).store := by
  revert hreplaces
  refine after_induction
    (motive := fun transcript store =>
      (∀ exchange ∈ transcript, ¬ exchange.Replaces key) → Recorded key transcript store)
    ?_ ?_ ?_ operations
  · exact fun _ => recorded_empty key
  · intro transcript store now operation outcome hstore ih hok hreplaces
    have h := ih fun exchange hmem => hreplaces exchange (List.mem_append_left _ hmem)
    by_cases hkey : operation.request.key? = some key
    · -- no exchange replaces the stream, the last one neither
      have hlast := hreplaces _ (List.mem_append_right _ (List.mem_singleton_self _))
      exact h.concat_of_effect hstore hok hkey hlast
    · exact h.concat_of_not_serves (streams_effect_of_ne hstore now hkey)
        fun hserves => hkey ((Exchange.serves_ok_iff _ _ _ _).1 hserves)
  · intro transcript store now operation e ih hreplaces
    have h := ih fun exchange hmem => hreplaces exchange (List.mem_append_left _ hmem)
    exact h.concat_of_not_serves rfl (Exchange.not_serves_error _ _ _ _)

/-- A stream that was created, and that nobody has replaced, is stored. The history of each of its
tags is what it was created with, followed by one event for each mapping and each new tag that was
served for the tag, in their order, with the image that it records; the last of them has added the
last event. -/
theorem tagEvents_after (operations : List (Timestamp × Operation)) (key : StreamKey)
    (hcreates : ∃ exchange ∈ empty.transcript operations, exchange.Creates key)
    (hreplaces : ∀ exchange ∈ empty.transcript operations, ¬ exchange.Replaces key) :
    ∃ stream, (empty.after operations).store.streams[key]? = some stream ∧ ∀ tag, ∃ added,
      stream.tagEvents tag = initialEvents key tag (empty.transcript operations) ++ added ∧
        List.Forall₂ Exchange.Records
          ((empty.transcript operations).filter (·.AddsTo key tag)) added ∧
        ∀ earlier exchange later,
          empty.transcript operations = earlier ++ exchange :: later →
          exchange.AddsTo key tag → (∀ other ∈ later, ¬ other.AddsTo key tag) →
            ∃ event, exchange.Records event ∧ (stream.tagEvents tag).getLast? = some event := by
  have hrecorded := recorded_after operations key hreplaces
  obtain ⟨creating, hmem, hserves, -⟩ := hcreates
  have hstored : (empty.after operations).store.streams[key]? ≠ none :=
    fun hnone => hrecorded.absent hnone creating hmem hserves
  obtain ⟨stream, hstored⟩ := Option.ne_none_iff_exists'.1 hstored
  refine ⟨stream, hstored, fun tag => ⟨addedEvents key tag (empty.transcript operations), ?_⟩⟩
  have hevents := hrecorded.tagEvents_eq tag
  rw [hstored, Option.map_some, Option.getD_some] at hevents
  refine ⟨hevents, forall₂_addedEvents key tag _, ?_⟩
  intro earlier exchange later htranscript hadds hlater
  obtain ⟨event, hevent⟩ : ∃ event, exchange.event? key tag = some event :=
    Option.ne_none_iff_exists'.1 fun hnone => Exchange.event?_eq_none_iff.1 hnone hadds
  refine ⟨event, Exchange.records_of_event? hevent, ?_⟩
  -- nothing is added after the last exchange that adds an event
  have hnone : later.filterMap (Exchange.event? key tag) = [] :=
    List.filterMap_eq_nil_iff.2 fun other hother =>
      Exchange.event?_eq_none_iff.2 (hlater other hother)
  rw [hevents, addedEvents, htranscript, List.filterMap_append, List.filterMap_cons_some hevent,
    hnone, ← List.append_assoc, List.getLast?_concat]

section Mapped

/-- A mapping of a tag to an image without a payload. -/
def mappingOf (stream image : String) : ImageStreamMapping :=
  { metadata := .named "test" stream, image := { metadata := { name := image } }, tag := "latest" }

/-- A request for a tag that embeds an image. -/
def stableTag : ImageStreamTag :=
  { metadata := .named "test" "app:stable", tag := none
    image := { metadata := { name := "two" }, reference := "registry/two" } }

/-- A request for a tag that comes from another registry. -/
def nextTag : ImageStreamTag :=
  { metadata := .named "test" "app:next"
    tag := some { source := some ⟨ObjectReference.dockerImageKind, "", "registry/next"⟩ }
    image := {} }

/-- A stream is mapped twice. In between it gets a new tag that embeds an image, and in the end one
that comes from another registry. A mapping into a missing stream fails. -/
def mappedTwice : List (Timestamp × Operation) :=
  [(⟨0, 0⟩, .createStream
      { metadata := .named "test" "app"
        status := { tags := [⟨"latest", [.now ⟨0, 0⟩ "" "base"]⟩] } }),
    (⟨1, 0⟩, .createMapping "test" (mappingOf "app" "one")),
    (⟨2, 0⟩, .createMapping "test" (mappingOf "other" "two")),
    (⟨3, 0⟩, .createTag "" stableTag),
    (⟨4, 0⟩, .createMapping "" (mappingOf "app" "three")),
    (⟨5, 0⟩, .createTag "" nextTag)]

set_option maxRecDepth 10000 in
/-- The tag holds what the stream was created with and an event for each mapping into it. Of the new
tags, one begins with the image that it embeds, and the other with the place that it comes from. -/
theorem tagEvents_mappedTwice :
    (∃ exchange ∈ empty.transcript mappedTwice, exchange.Creates ⟨"test", "app"⟩) ∧
      (∀ exchange ∈ empty.transcript mappedTwice, ¬ exchange.Replaces ⟨"test", "app"⟩) ∧
      ∃ stream, (empty.after mappedTwice).store.streams[(⟨"test", "app"⟩ : StreamKey)]? =
          some stream ∧
        stream.tagEvents "latest" =
          [.now ⟨0, 0⟩ "" "base", .now ⟨1, 0⟩ "" "one", .now ⟨4, 0⟩ "" "three"] ∧
        (stream.tagEvents "latest").getLast? = some (.now ⟨4, 0⟩ "" "three") ∧
        stream.tagEvents "stable" = [.now ⟨3, 0⟩ "registry/two" "two"] ∧
        stream.tagEvents "next" = [.now ⟨5, 0⟩ "registry/next" ""] := by
  have hcreates : ∃ exchange ∈ empty.transcript mappedTwice,
      exchange.Creates ⟨"test", "app"⟩ := by
    exact ⟨_, List.mem_cons_self, ⟨_, rfl, rfl⟩, Or.inl ⟨_, rfl⟩⟩
  have hreplaces : ∀ exchange ∈ empty.transcript mappedTwice,
      ¬ exchange.Replaces ⟨"test", "app"⟩ := by
    rintro exchange hmem ⟨-, stream, hupdate⟩
    have hoperation := mem_operations_of_mem_transcript hmem
    -- no operation of the run is to replace a stream
    have hnone : ∀ step ∈ mappedTwice, step.2.request ≠ .updateStream stream := by
      simp [mappedTwice, Operation.request]
    exact hnone _ hoperation hupdate
  obtain ⟨stream, hstored, htags⟩ := tagEvents_after mappedTwice ⟨"test", "app"⟩ hcreates hreplaces
  refine ⟨hcreates, hreplaces, stream, hstored, ?_, ?_, ?_, ?_⟩
  · -- the tag is mapped twice
    obtain ⟨added, hlatest, hrecords, -⟩ := htags "latest"
    have hmapped : (empty.transcript mappedTwice).filter (·.AddsTo ⟨"test", "app"⟩ "latest") =
        [⟨⟨1, 0⟩, .createMapping "test" (mappingOf "app" "one"), _⟩,
          ⟨⟨4, 0⟩, .createMapping "" (mappingOf "app" "three"), _⟩] := rfl
    rw [hmapped] at hrecords
    obtain _ | ⟨hone, _ | ⟨hthree, _ | _⟩⟩ := hrecords
    rw [hlatest, Request.records_createMapping_iff.1 hone,
      Request.records_createMapping_iff.1 hthree]
    rfl
  · -- the new tag that comes after the second mapping is another one
    obtain ⟨-, -, -, hlast⟩ := htags "latest"
    obtain ⟨event, hrecords, hlast⟩ := hlast (empty.transcript (mappedTwice.take 4))
      ⟨⟨4, 0⟩, .createMapping "" (mappingOf "app" "three"), _⟩ [_] rfl (by decide +kernel)
      (by decide +kernel)
    rw [hlast, Request.records_createMapping_iff.1 hrecords]
    rfl
  · obtain ⟨added, hstable, hrecords, -⟩ := htags "stable"
    have hnew : (empty.transcript mappedTwice).filter (·.AddsTo ⟨"test", "app"⟩ "stable") =
        [⟨⟨3, 0⟩, .createTag "" stableTag, _⟩] := rfl
    rw [hnew] at hrecords
    obtain _ | ⟨hbegins, _ | _⟩ := hrecords
    have hbegins := Request.records_createTag_iff.1 hbegins
    rw [hstable, hbegins.unique (.embedded (by decide))]
    rfl
  · obtain ⟨added, hnext, hrecords, -⟩ := htags "next"
    have hnew : (empty.transcript mappedTwice).filter (·.AddsTo ⟨"test", "app"⟩ "next") =
        [⟨⟨5, 0⟩, .createTag "" nextTag, _⟩] := rfl
    rw [hnew] at hrecords
    obtain _ | ⟨hbegins, _ | _⟩ := hrecords
    have hbegins := Request.records_createTag_iff.1 hbegins
    rw [hnext, hbegins.unique (.dockerImage rfl rfl rfl)]
    rfl

end Mapped

end RegistryBench.ControlPlane
