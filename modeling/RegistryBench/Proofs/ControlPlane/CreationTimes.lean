import RegistryBench.Proofs.ControlPlane.TagEvents

/-!
# When streams were created

A stream is stamped when it is created, with the time of that operation, whatever time the object
carries that creates it. Nobody changes the time afterwards: whoever writes the stream again keeps
the time that is stored.

* `created_of_writes`: what each request for a stream makes of the time, and
  `created?_of_effect`: what it answers.
* `Dated` says that the first request that was served for a stream has created and stamped it;
  every operation keeps it.
* `created_by_first` reads the time of a stored stream off the transcript of any run.
-/

namespace RegistryBench

/-- The time of creation of the stream that is answered, or of the stream of the tag. -/
def Outcome.created? : Outcome → Option Timestamp
  | .stream shown => shown.metadata.created
  | .tag shown => shown.metadata.created
  | _ => none

namespace ControlPlane

/-- The time of creation of a stream that is written at some time: what is stored says it, and a
stream that was not stored is created then. -/
def creationTime (now : Timestamp) (before : Option ImageStream) : Timestamp :=
  (before.bind (·.metadata.created)).getD now

namespace Request

/-- Whoever writes a stream keeps its time of creation, or creates it now. -/
theorem created_of_writes {now : Timestamp} {key : StreamKey} {before : Option ImageStream}
    {request : Request} {stream : ImageStream} (h : request.Writes now key before stream)
    (hbefore : ∀ stored, before = some stored → stored.metadata.created.isSome) :
    stream.metadata.created = some (creationTime now before) := by
  -- what is stored says when it was created
  have hstored (stored : ImageStream) (heq : before = some stored) :
      stored.metadata.created = some (creationTime now before) := by
    obtain ⟨created, hcreated⟩ := Option.isSome_iff_exists.1 (hbefore stored heq)
    rw [creationTime, heq, Option.bind_some, hcreated, Option.getD_some]
  cases h with
  | createStream hkey hnew =>
    rw [hnew]
    rfl
  | @updateStream stream stored hkey heq => exact hstored stored heq
  | @createMapping ns mapping stored hns hname heq => exact hstored stored heq
  | @createTag ns request tag found hns hname hfound hfree =>
    show some (found.metadata.created.getD now) = some (creationTime now before)
    subst hfound
    cases before with
    | none => rfl
    | some stored => rfl

/-- A stream that was not stored is created by the request that writes it. -/
theorem creates_of_writes {now : Timestamp} {key : StreamKey} {request : Request}
    {stream : ImageStream} (h : request.Writes now key none stream) :
    (∃ created, request = .createStream created) ∨ ∃ ns tag, request = .createTag ns tag := by
  cases h with
  | @createStream created => exact Or.inl ⟨created, rfl⟩
  | updateStream hkey hstored => contradiction
  | createMapping hns hname hstored => contradiction
  | @createTag ns tag => exact Or.inr ⟨ns, tag, rfl⟩

/-- A request for a stream that is served answers when the stream was created, but for a mapping,
which answers itself. -/
theorem created?_of_effect {store : Store} (hstore : store.WellFormed) {now : Timestamp}
    {request : Request} {outcome : Outcome} (hok : (request.effect now store).1 = .ok outcome)
    {key : StreamKey} (hkey : request.key? = some key) :
    (∃ ns mapping, request = .createMapping ns mapping) ∨
      outcome.created? = some (creationTime now store.streams[key]?) := by
  cases request with
  | createImage image => contradiction
  | updateImage image => contradiction
  | createStream stream =>
    obtain rfl : stream.key = key := Option.some.inj hkey
    simp only [Request.effect] at hok
    split at hok
    next => contradiction
    next hnew =>
      -- a new stream is created now
      rw [Std.ExtTreeMap.mem_iff_isSome_getElem?, Option.not_isSome_iff_eq_none] at hnew
      rw [← Except.ok.inj hok, hnew]
      exact Or.inr rfl
  | updateStream stream =>
    obtain rfl : stream.key = key := Option.some.inj hkey
    simp only [Request.effect] at hok
    split at hok
    next => contradiction
    next stored hstored =>
      -- a stored stream has a time of creation, which the answer reports
      obtain ⟨created, hcreated⟩ := Option.isSome_iff_exists.1 (hstore.created hstored)
      rw [← Except.ok.inj hok, hstored, creationTime, Option.bind_some, hcreated]
      exact Or.inr rfl
  | createMapping ns mapping => exact Or.inl ⟨ns, mapping, rfl⟩
  | createTag ns request =>
    simp only [Request.effect] at hok
    split at hok
    next => contradiction
    next name tag hsplit =>
      rw [Request.key?, hsplit, Option.map_some, Option.some.injEq] at hkey
      subst hkey
      split at hok
      next => contradiction
      next =>
        right
        rw [← Except.ok.inj hok]
        -- a stream that is new for the tag is created now, as any new stream is
        cases store.streams[(⟨effectiveNamespace ns request.metadata.ns, name⟩ : StreamKey)]? with
        | none => rfl
        | some stored => rfl
  | look answer => contradiction

end Request

/-- A stream was created by the first request that was served for it, and its time of creation is
that of this request. So is what all requests for the stream were answered, but for mappings. -/
def CreatedBy (key : StreamKey) (transcript : List Exchange) (stream : ImageStream) : Prop :=
  ∃ earlier first later, transcript = earlier ++ first :: later ∧
    (∀ other ∈ earlier, ¬ other.Serves key) ∧ first.Creates key ∧
    stream.metadata.created = some first.now ∧
    ∀ exchange ∈ transcript, exchange.Serves key →
      (∃ ns mapping, exchange.operation.request = .createMapping ns mapping) ∨
        ∃ outcome, exchange.answer = .ok outcome ∧ outcome.created? = some first.now

/-- What a transcript says of the creation of a stream is what is stored. -/
structure Dated (key : StreamKey) (transcript : List Exchange) (store : Store) : Prop where
  /-- No request for a stream that is not stored was served. -/
  absent : store.streams[key]? = none → ∀ exchange ∈ transcript, ¬ exchange.Serves key
  /-- A stored stream was created by the first request for it. -/
  created : ∀ stream, store.streams[key]? = some stream → CreatedBy key transcript stream

/-- Before anything was done, no stream has a date. -/
theorem dated_empty (key : StreamKey) : Dated key [] .empty where
  absent _ _ hmem := absurd hmem List.not_mem_nil
  created stream hstored := by simp [Store.empty] at hstored

namespace Dated

variable {key : StreamKey} {transcript : List Exchange} {store store' : Store}

/-- Where an exchange leaves a stream alone, it was created as before. -/
theorem concat_of_not_serves (h : Dated key transcript store) {exchange : Exchange}
    (hsame : store'.streams[key]? = store.streams[key]?) (hserves : ¬ exchange.Serves key) :
    Dated key (transcript ++ [exchange]) store' where
  absent hnone other hmem := by
    rcases List.mem_append.1 hmem with hmem | hmem
    · exact h.absent (hsame.symm.trans hnone) other hmem
    · exact List.mem_singleton.1 hmem ▸ hserves
  created stream hstored := by
    obtain ⟨earlier, first, later, rfl, hearlier, hcreates, hcreated, hanswers⟩ :=
      h.created stream (hsame.symm.trans hstored)
    refine ⟨earlier, first, later ++ [exchange], List.append_assoc _ _ _, hearlier, hcreates,
      hcreated, fun other hmem hother => ?_⟩
    rcases List.mem_append.1 hmem with hmem | hmem
    · exact hanswers other hmem hother
    · exact absurd (List.mem_singleton.1 hmem ▸ hother) hserves

/-- A request for a stream that is served creates it, or keeps what is stored of its creation. -/
theorem concat_of_effect (h : Dated key transcript store) (hstore : store.WellFormed)
    {now : Timestamp} {operation : Operation} {outcome : Outcome}
    (hok : (operation.request.effect now store).1 = .ok outcome)
    (hkey : operation.request.key? = some key) :
    Dated key (transcript ++ [⟨now, operation, .ok outcome⟩])
      (store.writeAll (operation.request.effect now store).2) := by
  obtain ⟨written, hwrites, hwritten⟩ := writes_of_effect hstore hok hkey
  refine ⟨fun hnone => absurd (hwritten.symm.trans hnone) (Option.some_ne_none _), ?_⟩
  intro stream hstored
  obtain rfl := Option.some.inj (hwritten.symm.trans hstored)
  have hcreated := Request.created_of_writes hwrites fun _ heq => hstore.created heq
  have hanswer := Request.created?_of_effect hstore hok hkey
  have hserves := (Exchange.serves_ok_iff now operation outcome key).2 hkey
  cases hbefore : store.streams[key]? with
  | none =>
    -- nothing was served for the stream so far: this request comes first
    rw [hbefore] at hwrites hcreated hanswer
    have hnone := h.absent hbefore
    refine ⟨transcript, _, [], rfl, hnone, ⟨hserves, Request.creates_of_writes hwrites⟩, hcreated,
      fun exchange hmem hexchange => ?_⟩
    rcases List.mem_append.1 hmem with hmem | hmem
    · exact absurd hexchange (hnone exchange hmem)
    · rw [List.mem_singleton.1 hmem]
      exact hanswer.imp_right fun hanswer => ⟨outcome, rfl, hanswer⟩
  | some stored =>
    obtain ⟨earlier, first, later, rfl, hearlier, hcreates, hfirst, hanswers⟩ :=
      h.created stored hbefore
    have htime : creationTime now (some stored) = first.now := by
      rw [creationTime, Option.bind_some, hfirst, Option.getD_some]
    rw [hbefore, htime] at hcreated hanswer
    refine ⟨earlier, first, later ++ [_], List.append_assoc _ _ _, hearlier, hcreates, hcreated,
      fun exchange hmem hexchange => ?_⟩
    rcases List.mem_append.1 hmem with hmem | hmem
    · exact hanswers exchange hmem hexchange
    · rw [List.mem_singleton.1 hmem]
      exact hanswer.imp_right fun hanswer => ⟨outcome, rfl, hanswer⟩

end Dated

/-- After every run, what is stored is dated by the transcript. -/
theorem dated_after (operations : List (Timestamp × Operation)) (key : StreamKey) :
    Dated key (empty.transcript operations) (empty.after operations).store := by
  refine after_induction (motive := Dated key) (dated_empty key) ?_ ?_ operations
  · intro transcript store now operation outcome hstore h hok
    by_cases hkey : operation.request.key? = some key
    · exact h.concat_of_effect hstore hok hkey
    · apply h.concat_of_not_serves (streams_effect_of_ne hstore now hkey)
      rwa [Exchange.serves_ok_iff]
  · intro transcript store now operation e h
    apply h.concat_of_not_serves rfl
    exact Exchange.not_serves_error _ _ _ _

/-- Every stored stream says when it was created: when the first request for it was served, which
has created it. All that wrote it since were answered the same time. -/
theorem created_by_first (operations : List (Timestamp × Operation)) (key : StreamKey)
    (stream : ImageStream)
    (hstored : (empty.after operations).store.streams[key]? = some stream) :
    CreatedBy key (empty.transcript operations) stream :=
  (dated_after operations key).created stream hstored

section StampedOnce

/-- A tag to add to a stream, with a time of its own. -/
def lateTag (name : String) (created : Option Timestamp) : ImageStreamTag :=
  { metadata := { ObjectMeta.named "test" name with created }, tag := none, image := {} }

/-- A stream with a time of its own. -/
def datedStream (created : Option Timestamp) : ImageStream :=
  { metadata := { ObjectMeta.named "test" "app" with created } }

/-- A stream is created for a new tag, is not created again, and is written in all ways after, with
older and newer times and with none. -/
def stampedOnce : List (Timestamp × Operation) :=
  [(⟨5, 0⟩, .createTag "" (lateTag "app:latest" (some ⟨9, 0⟩))),
    (⟨6, 0⟩, .createStream (datedStream (some ⟨1, 0⟩))),
    (⟨7, 0⟩, .updateStream (datedStream none)),
    (⟨8, 0⟩, .createMapping "test" (mappingOf "app" "one")),
    (⟨9, 0⟩, .updateStream (datedStream (some ⟨2, 0⟩))),
    (⟨10, 0⟩, .createTag "test" (lateTag "app:stable" none))]

/-- The time is that of the first operation in the end, and the last one is answered it. -/
theorem created_by_first_stampedOnce :
    ∃ stream, (empty.after stampedOnce).store.streams[(⟨"test", "app"⟩ : StreamKey)]? =
        some stream ∧
      stream.metadata.created = some ⟨5, 0⟩ ∧
      CreatedBy ⟨"test", "app"⟩ (empty.transcript stampedOnce) stream ∧
      ((empty.transcript stampedOnce).getLast?.bind fun exchange =>
        exchange.answer.toOption.bind Outcome.created?) = some ⟨5, 0⟩ := by
  have hcreated : ((empty.after stampedOnce).store.streams[(⟨"test", "app"⟩ : StreamKey)]?.map
      (·.metadata.created)) = some (some ⟨5, 0⟩) := by decide +kernel
  obtain ⟨stream, hstored, hcreated⟩ := Option.map_eq_some_iff.1 hcreated
  exact ⟨stream, hstored, hcreated, created_by_first stampedOnce _ stream hstored,
    by decide +kernel⟩

end StampedOnce

end ControlPlane

end RegistryBench
