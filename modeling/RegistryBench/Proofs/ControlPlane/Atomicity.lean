import RegistryBench.Proofs.ControlPlane.History

/-!
# Failed and read-only actions

An action that is answered by an error has written nothing, although a mapping stores its image
before it updates its stream: in a store that operations can reach, the last step of a mapping or
of a new tag does not fail. Reading writes nothing either.
-/

namespace RegistryBench

namespace Store

/-- Looking an image up fails with an error of the control plane only. -/
theorem getImage_error {store : Store} {name : String} {e : Error}
    (h : store.getImage name = .error e) : e.OfControlPlane := by
  rw [getImage] at h
  split at h
  next => contradiction
  next => exact Except.error.inj h ▸ trivial

/-- Looking a stream up fails with an error of the control plane only. -/
theorem getStream_error {store : Store} {key : StreamKey} {e : Error}
    (h : store.getStream key = .error e) : e.OfControlPlane := by
  rw [getStream] at h
  split at h
  next => contradiction
  next => exact Except.error.inj h ▸ trivial

/-- Looking a layers view up fails with an error of the control plane only. -/
theorem getLayers_error {store : Store} {key : StreamKey} {e : Error}
    (h : store.getLayers key = .error e) : e.OfControlPlane := by
  rw [getLayers] at h
  split at h
  next => contradiction
  next => exact Except.error.inj h ▸ trivial

/-- Looking an image up through a stream fails with an error of the control plane only. -/
theorem getStreamImage_error {store : Store} {ns name : String} {e : Error}
    (h : store.getStreamImage ns name = .error e) : e.OfControlPlane := by
  rw [getStreamImage] at h
  split at h
  next => exact Except.error.inj h ▸ trivial
  next =>
    split at h
    next _ hstream => exact Except.error.inj h ▸ getStream_error hstream
    next =>
      split at h
      next => exact Except.error.inj h ▸ trivial
      next =>
        split at h
        next _ himage => exact Except.error.inj h ▸ getImage_error himage
        next =>
          split at h
          next => exact Except.error.inj h ▸ trivial
          next => contradiction

end Store

namespace ControlPlane

/-! ### Requests that fail -/

/-- A request that is answered by an error writes nothing. -/
theorem writes_of_error {now : Timestamp} {store : Store} {request : Request} {e : Error}
    (h : (request.effect now store).1 = .error e) : (request.effect now store).2 = [] := by
  obtain ⟨answer, rfl⟩ | ⟨e, heffect, -⟩ | ⟨outcome, image, heffect, -⟩ |
    ⟨outcome, stream, kept, heffect, -, -⟩ := effect_cases now store request
  · rfl
  · rw [heffect]
  · rw [heffect] at h
    contradiction
  · rw [heffect] at h
    contradiction

/-- A look at the store fails in the ways of a control plane only. -/
def Request.Proper : Request → Prop
  | .look answer => ∀ store e, answer store = .error e → e.OfControlPlane
  | _ => True

/-- A request that is refused at once asks for nothing else. -/
theorem proper_refuse {e : Error} (h : e.OfControlPlane) : (Request.refuse e).Proper := by
  intro store e' he
  exact Except.error.inj he ▸ h

/-- Turning a result into an outcome fails as the result does. -/
theorem error_of_map {α β : Type} {f : α → β} {result : Except Error α} {e : Error}
    (h : result.map f = .error e) : result = .error e := by
  cases result with
  | error e' => exact congrArg _ (Except.error.inj h)
  | ok a => contradiction

/-- An action that fits no handler is an error of the control plane. -/
theorem mismatch_ofControlPlane (action : Action) : action.mismatch.OfControlPlane := by
  rw [Action.mismatch]
  split
  · trivial
  · trivial

/-- The request that an action makes fails in the ways of a control plane only. -/
theorem proper_ofAction (action : Action) : (Request.ofAction action).Proper := by
  have hmismatch : (Request.refuse action.mismatch).Proper :=
    proper_refuse (mismatch_ofControlPlane action)
  rw [Request.ofAction]
  split
  -- an action that changes something has a change for its object or is refused
  · split
    · trivial
    · exact hmismatch
  · exact fun _ _ he => Store.getImage_error (error_of_map he)
  · intro _ _ he
    contradiction
  · split
    · trivial
    · exact hmismatch
  · split
    · trivial
    · exact hmismatch
  · exact fun _ _ he => Store.getStream_error (error_of_map he)
  · intro _ _ he
    contradiction
  · split
    · trivial
    · exact hmismatch
  · exact fun _ _ he => Store.getLayers_error (error_of_map he)
  · intro _ _ he
    contradiction
  · split
    · trivial
    · exact hmismatch
  · split
    · trivial
    · exact hmismatch
  · exact fun _ _ he => Store.getStreamImage_error (error_of_map he)
  · exact proper_refuse trivial

/-- Getting and listing look at the store. -/
theorem ofAction_of_readOnly {action : Action} (h : action.verb = .get ∨ action.verb = .list) :
    ∃ answer, Request.ofAction action = .look answer := by
  obtain ⟨verb, resource, subresource, ns, name, object⟩ := action
  simp only [Request.ofAction]
  -- every combination with these verbs is a look, be it a refusal
  generalize Subresource.ofText? subresource = part
  obtain rfl | rfl : verb = .get ∨ verb = .list := h
  · cases resource <;> rcases part with _ | _ | _ | _ <;> exact ⟨_, rfl⟩
  · cases resource <;> rcases part with _ | _ | _ | _ <;> exact ⟨_, rfl⟩

/-- A proper request fails in the ways of a control plane only. -/
theorem ofControlPlane_of_error {now : Timestamp} {store : Store} {request : Request}
    (hproper : request.Proper) {e : Error} (h : (request.effect now store).1 = .error e) :
    e.OfControlPlane := by
  obtain ⟨answer, rfl⟩ | ⟨e', heffect, he'⟩ | ⟨outcome, image, heffect, -⟩ |
    ⟨outcome, stream, kept, heffect, -, -⟩ := effect_cases now store request
  · exact hproper store e h
  · rw [heffect] at h
    exact Except.error.inj h ▸ he'
  · rw [heffect] at h
    contradiction
  · rw [heffect] at h
    contradiction

/-! ### Last steps -/

/-- A mapping that has found its stream and kept its image goes on to update the stream. -/
theorem updateStream_of_kept {c found kept : ControlPlane} (hc : c.store.WellFormed)
    {key : StreamKey} {stream : ImageStream} {image : Image}
    (hfound : c.serve (getStream key) = (.ok stream, found))
    (hkept : found.serve (ensureImage image) = (.ok (), kept)) (tag : String) (event : TagEvent) :
    (kept.serve (updateStream (stream.pushTagEvent tag event))).1 =
      .ok (stream.pushTagEvent tag event) := by
  rw [serve_getStream, Prod.mk.injEq] at hfound
  obtain ⟨hstored, rfl⟩ := hfound
  have hstored : c.store.streams[key]? = some stream := by
    rw [Store.getStream] at hstored
    split at hstored
    next _ h => exact h.trans (congrArg some (Except.ok.inj hstored))
    next => contradiction
  -- keeping the image has succeeded, so its manifests could be filled in
  obtain ⟨log, hensured⟩ := serve_ensureImage c image
  rw [hkept] at hensured
  split at hensured
  next => exact absurd (congrArg Prod.fst hensured) (by simp)
  next expanded _ =>
    obtain rfl := congrArg Prod.snd hensured
    -- keeping the image has not touched the stream
    rw [← Store.streams_writeAll_keep c.store expanded] at hstored
    obtain ⟨log', hupdated⟩ := serve_updateStream_of_stored
      (c := ⟨c.store.writeAll (c.store.keep expanded), log⟩) (hc.keep expanded) hstored
      (show (stream.pushTagEvent tag event).metadata = stream.metadata from rfl)
    rw [hupdated]

/-- A new tag that has found its stream, or found it missing, goes on to persist the stream. -/
theorem persist_of_found {c found : ControlPlane} (hc : c.store.WellFormed) (now : Timestamp)
    {key : StreamKey} {stream tagged : ImageStream}
    (hfound : c.serve (streamOrNew key) = (.ok stream, found))
    (hmeta : tagged.metadata = stream.metadata) :
    ∃ stored, (found.serve (if tagged.metadata.created.isNone then createStream now tagged
      else updateStream tagged)).1 = .ok stored := by
  -- looking the stream up has changed nothing
  rw [serve_streamOrNew, Prod.mk.injEq, Except.ok.injEq] at hfound
  obtain ⟨rfl, rfl⟩ := hfound
  obtain ⟨log, hpersisted⟩ := serve_persist hc now hmeta
  rw [hpersisted]
  exact ⟨_, rfl⟩

/-- In every store that operations can reach, an action that fails or reads leaves the store as it
is, every error is one of a control plane, and the last steps of mappings and of new tags do not
fail when the steps before them have not. -/
theorem dispatch_atomic (operations : List (Timestamp × Operation)) (now : Timestamp)
    (action : Action) :
    let c := empty.after operations
    ((∃ e, (c.serve (dispatch now action)).1 = .error e) ∨ action.verb = .get ∨
        action.verb = .list → (c.serve (dispatch now action)).2.store = c.store) ∧
      (∀ e, (c.serve (dispatch now action)).1 = .error e → e.OfControlPlane) ∧
      (∀ key stream image found kept, c.serve (getStream key) = (.ok stream, found) →
        found.serve (ensureImage image) = (.ok (), kept) → ∀ tag event,
          (kept.serve (updateStream (stream.pushTagEvent tag event))).1 =
            .ok (stream.pushTagEvent tag event)) ∧
      (∀ key stream found, c.serve (streamOrNew key) = (.ok stream, found) →
        ∀ reference tag event,
          let tagged := (stream.addSpecTag reference).pushTagEvent tag event
          ∃ stored, (found.serve (if tagged.metadata.created.isNone then createStream now tagged
            else updateStream tagged)).1 = .ok stored) := by
  intro c
  have hc : c.store.WellFormed := wellFormed_after operations
  -- dispatching does what the request of the action says
  have hanswer : (c.serve (dispatch now action)).1 =
      ((Request.ofAction action).effect now c.store).1 := answer_serve hc now (.dispatch action)
  have hstore : (c.serve (dispatch now action)).2.store =
      c.store.writeAll ((Request.ofAction action).effect now c.store).2 :=
    store_serve hc now (.dispatch action)
  refine ⟨?_, ?_, ?_, ?_⟩
  · -- neither a request that fails nor a look at the store writes anything
    rintro (⟨e, he⟩ | hverb)
    · rw [hanswer] at he
      rw [hstore, writes_of_error he, Store.writeAll_nil]
    · obtain ⟨answer, hlook⟩ := ofAction_of_readOnly hverb
      rw [hstore, hlook]
      rfl
  · intro e he
    rw [hanswer] at he
    exact ofControlPlane_of_error (proper_ofAction action) he
  · intro key stream image found kept hfound hkept tag event
    exact updateStream_of_kept hc hfound hkept tag event
  · intro key stream found hfound reference tag event
    exact persist_of_found hc now hfound rfl

section App

/-- An image without a payload. -/
def appImage : Image := { metadata := { name := "image" } }

/-- A control plane that stores a single stream. -/
def appOnly : List (Timestamp × Operation) :=
  [(⟨0, 0⟩, .createStream (.empty "test" "app"))]

/-- The stream as it is stored. -/
def app : ImageStream := Store.stamp (.empty "test" "app") (some ⟨0, 0⟩)

/-- A mapping into a stream that is not stored. -/
def mapIntoOther : Action :=
  .create (.mapping { metadata := .named "test" "other", image := appImage, tag := "latest" })

/-- A mapping into a missing stream fails and leaves the store as it is. The last steps of a
mapping into the stored stream and of a new tag of it succeed after the steps before them. -/
theorem dispatch_atomic_app :
    let c := empty.after appOnly
    ((c.serve (dispatch ⟨1, 0⟩ mapIntoOther)).1 = .error (.notFound .imageStream "test/other") ∧
        (c.serve (dispatch ⟨1, 0⟩ mapIntoOther)).2.store = c.store) ∧
      (c.serve (getStream ⟨"test", "app"⟩) = (.ok app, c) ∧
        c.serve (ensureImage appImage) = (.ok (), (c.serve (ensureImage appImage)).2) ∧
        ∀ event, ((c.serve (ensureImage appImage)).2.serve
          (updateStream (app.pushTagEvent "latest" event))).1 =
            .ok (app.pushTagEvent "latest" event)) ∧
      c.serve (streamOrNew ⟨"test", "app"⟩) = (.ok app, c) ∧
        ∀ event, ∃ stored, (c.serve (updateStream
          ((app.addSpecTag { name := "latest" }).pushTagEvent "latest" event))).1 =
            .ok stored := by
  intro c
  have hrefused : (c.serve (dispatch ⟨1, 0⟩ mapIntoOther)).1 =
      .error (.notFound .imageStream "test/other") := by
    rfl
  have hfound : c.serve (getStream ⟨"test", "app"⟩) = (.ok app, c) := by
    rfl
  have hkept : c.serve (ensureImage appImage) = (.ok (), (c.serve (ensureImage appImage)).2) := by
    rfl
  have hreused : c.serve (streamOrNew ⟨"test", "app"⟩) = (.ok app, c) := by
    rfl
  obtain ⟨hkeeps, -, hmapping, htag⟩ := dispatch_atomic appOnly ⟨1, 0⟩ mapIntoOther
  refine ⟨⟨hrefused, hkeeps (Or.inl ⟨_, hrefused⟩)⟩, ⟨hfound, hkept, ?_⟩, hreused, ?_⟩
  · exact hmapping _ _ _ _ _ hfound hkept "latest"
  · exact htag _ _ _ hreused { name := "latest" } "latest"

end App

end ControlPlane

end RegistryBench
