import RegistryBench.Proofs.ControlPlane.History

/-!
# What requests write to streams

A request concerns one stream at most (`Request.key?`) and leaves the others as they are
(`streams_effect_of_ne`). When it is served, the stream is stored afterwards, and what is stored
depends on the request and on what was stored under the key before (`Request.Writes`,
`writes_of_effect`).
-/

namespace RegistryBench.ControlPlane

namespace Request

/-- The stream that a request may write. -/
def key? : Request → Option StreamKey
  | .createStream stream => some stream.key
  | .updateStream stream => some stream.key
  | .createMapping ns mapping =>
    some ⟨effectiveNamespace ns mapping.metadata.ns, mapping.metadata.name⟩
  | .createTag ns request =>
    (Name.splitTag? request.metadata.name).map fun halves =>
      ⟨effectiveNamespace ns request.metadata.ns, halves.1⟩
  | .createImage _ | .updateImage _ | .look _ => none

/-- The stream that a request, when it is served, puts in the place of what was stored under a
key before. -/
inductive Writes (now : Timestamp) (key : StreamKey) (before : Option ImageStream) :
    Request → ImageStream → Prop
  /-- A new stream is created now. -/
  | createStream {stream : ImageStream} (hkey : stream.key = key) (hnew : before = none) :
      Writes now key before (.createStream stream) (Store.stamp stream (some now))
  /-- A stream is replaced, which was created when the old one was. -/
  | updateStream {stream stored : ImageStream} (hkey : stream.key = key)
      (hstored : before = some stored) :
      Writes now key before (.updateStream stream) (Store.stamp stream stored.metadata.created)
  /-- A mapping adds an event to a stored stream. -/
  | createMapping {ns : String} {mapping : ImageStreamMapping} {stored : ImageStream}
      (hns : effectiveNamespace ns mapping.metadata.ns = key.ns)
      (hname : mapping.metadata.name = key.name) (hstored : before = some stored) :
      Writes now key before (.createMapping ns mapping)
        (stored.pushTagEvent mapping.tag
          (.now now mapping.image.reference mapping.image.name))
  /-- A new tag is added to a stream, which need not be stored yet, with its first event. -/
  | createTag {ns : String} {request : ImageStreamTag} {tag : String} {stream : ImageStream}
      (hns : effectiveNamespace ns request.metadata.ns = key.ns)
      (hname : Name.splitTag? request.metadata.name = some (key.name, tag))
      (hstream : stream = before.getD (.empty key.ns key.name))
      (hfree : stream.specTag? tag = none) :
      Writes now key before (.createTag ns request)
        (Store.stamp
          ((stream.addSpecTag { request.tag.getD {} with name := tag }).pushTagEvent tag
            (tagEvent now request))
          (some (stream.metadata.created.getD now)))

end Request

/-- A stream that is found under a key, or is new there, has that key. -/
theorem key_getD_empty {store : Store} (hstore : store.WellFormed) (key : StreamKey) :
    (store.streams[key]?.getD (.empty key.ns key.name)).key = key := by
  cases hstored : store.streams[key]? with
  | none => rfl
  | some stream => exact hstore.stream_key hstored

/-- A request leaves all streams as they are but the one that it may write. -/
theorem streams_effect_of_ne {store : Store} (hstore : store.WellFormed) (now : Timestamp)
    {request : Request} {key : StreamKey} (hkey : request.key? ≠ some key) :
    (store.writeAll (request.effect now store).2).streams[key]? = store.streams[key]? := by
  cases request with
  | createImage image =>
    simp only [Request.effect]
    split
    · rfl
    · split
      · rfl
      · rfl
  | updateImage image =>
    simp only [Request.effect]
    split
    · rfl
    · rfl
  | createStream stream =>
    have hne : (Store.stamp stream (some now)).key ≠ key := fun h => hkey (congrArg some h)
    simp only [Request.effect]
    split
    · rfl
    · exact (Store.streams_putStream _ _ _).trans (if_neg hne)
  | updateStream stream =>
    simp only [Request.effect]
    split
    next => rfl
    next stored _ =>
      have hne : (Store.stamp stream stored.metadata.created).key ≠ key :=
        fun h => hkey (congrArg some h)
      exact (Store.streams_putStream _ _ _).trans (if_neg hne)
  | createMapping ns mapping =>
    simp only [Request.effect]
    split
    next => rfl
    next => rfl
    next stream image hstored _ =>
      -- the stream that is written is stored under its own key
      have hne : (stream.pushTagEvent mapping.tag
          (.now now mapping.image.reference mapping.image.name)).key ≠ key := by
        intro h
        exact hkey (congrArg some ((hstore.stream_key hstored).symm.trans h))
      rw [Store.writeAll_cons, Store.write_stream, Store.streams_putStream, if_neg hne,
        Store.streams_writeAll_keep]
  | createTag ns request =>
    simp only [Request.effect]
    split
    next => rfl
    next name tag hsplit =>
      split
      next => rfl
      next =>
        let target : StreamKey := ⟨effectiveNamespace ns request.metadata.ns, name⟩
        have htarget : target ≠ key := by
          intro h
          exact hkey (by rw [Request.key?, hsplit, Option.map_some, ← h])
        -- the tagged stream is found, or new, under the key that the request names
        have hne : (store.streams[target]?.getD (.empty target.ns target.name)).key ≠ key :=
          (key_getD_empty hstore target).symm ▸ htarget
        exact (Store.streams_putStream _ _ _).trans (if_neg hne)
  | look answer => rfl

/-- A request for a stream that is served leaves a stream stored under its key. -/
theorem writes_of_effect {store : Store} (hstore : store.WellFormed) {now : Timestamp}
    {request : Request} {outcome : Outcome} (hok : (request.effect now store).1 = .ok outcome)
    {key : StreamKey} (hkey : request.key? = some key) :
    ∃ stream, request.Writes now key store.streams[key]? stream ∧
      (store.writeAll (request.effect now store).2).streams[key]? = some stream := by
  cases request with
  | createImage image => contradiction
  | updateImage image => contradiction
  | createStream stream =>
    obtain rfl : stream.key = key := Option.some.inj hkey
    simp only [Request.effect] at hok ⊢
    split at hok
    next => contradiction
    next hnew =>
      have hnone : store.streams[stream.key]? = none := by
        rwa [Std.ExtTreeMap.mem_iff_isSome_getElem?, Option.not_isSome_iff_eq_none] at hnew
      refine ⟨_, .createStream rfl hnone, ?_⟩
      rw [if_neg hnew]
      exact (Store.streams_putStream _ _ _).trans (if_pos rfl)
  | updateStream stream =>
    obtain rfl : stream.key = key := Option.some.inj hkey
    simp only [Request.effect] at hok ⊢
    split at hok
    next => contradiction
    next stored hstored =>
      refine ⟨_, .updateStream rfl hstored, ?_⟩
      exact (Store.streams_putStream _ _ _).trans (if_pos rfl)
  | createMapping ns mapping =>
    obtain rfl := Option.some.inj hkey
    simp only [Request.effect] at hok ⊢
    split at hok
    next => contradiction
    next => contradiction
    next stream image hstored hexpand =>
      refine ⟨_, .createMapping rfl rfl hstored, ?_⟩
      -- the stream found is written back under the key it was found by
      have hwritten : stream.key = _ := hstore.stream_key hstored
      exact (Store.streams_putStream _ _ _).trans (if_pos hwritten)
  | createTag ns request =>
    simp only [Request.effect] at hok ⊢
    split at hok
    next => contradiction
    next name tag hsplit =>
      rw [Request.key?, hsplit, Option.map_some, Option.some.injEq] at hkey
      subst hkey
      split at hok
      next => contradiction
      next hfree =>
        -- found or new, the stream with the tag has the key that the request names
        refine ⟨_, .createTag rfl hsplit rfl (Option.not_isSome_iff_eq_none.1 hfree), ?_⟩
        rw [if_neg hfree]
        exact (Store.streams_putStream _ _ _).trans (if_pos (key_getD_empty hstore _))
  | look answer => contradiction

end RegistryBench.ControlPlane
