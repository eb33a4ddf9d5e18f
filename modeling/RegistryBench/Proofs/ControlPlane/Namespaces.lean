import RegistryBench.ControlPlane.Dispatch

/-!
# Actions in another namespace

An action about an object may be redirected to another namespace. A stream goes where the action is
sent, be that no namespace. A mapping or a new tag goes there unless that is no namespace, and then
where its own metadata says (`Object.targetNamespace`). An image is stored as it is.

* `route_inNamespace`: redirecting an action has the effect of moving its object to its target.
* `dispatch_inNamespace`: to redirect an action is to set the namespace of its object, be the
  answer an outcome or an error.
* `route_image_inNamespace`: for images it changes nothing.
-/

namespace RegistryBench

namespace Object

/-- The object with another namespace in its metadata. -/
def inNamespace (ns : String) : Object → Object
  | image o => .image { o with metadata.ns := ns }
  | stream o => .stream { o with metadata.ns := ns }
  | mapping o => .mapping { o with metadata.ns := ns }
  | tag o => .tag { o with metadata.ns := ns }

/-- The namespace that an object goes to when its action is redirected. -/
def targetNamespace (ns : String) : Object → String
  | stream _ => ns
  | object => ControlPlane.effectiveNamespace ns object.metadata.ns

/-- Moving an object to a namespace leaves it of the same kind. -/
@[simp]
theorem resource_inNamespace (ns : String) (object : Object) :
    (object.inNamespace ns).resource = object.resource := by
  cases object <;> rfl

/-- Moving an object to a namespace changes nothing but the namespace in its metadata. -/
@[simp]
theorem metadata_inNamespace (ns : String) (object : Object) :
    (object.inNamespace ns).metadata = { object.metadata with ns } := by
  cases object <;> rfl

/-- Objects go to the namespace that their action is redirected to, when it is one. -/
theorem targetNamespace_of_ne {ns : String} (hns : ns ≠ "") (object : Object) :
    object.targetNamespace ns = ns := by
  cases object <;> simp [targetNamespace, ControlPlane.effectiveNamespace, hns]

end Object

namespace ControlPlane

variable (now : Timestamp)

/-- A namespace that has been made out is kept. -/
theorem effectiveNamespace_self (ns : String) : effectiveNamespace ns ns = ns := by
  simp [effectiveNamespace]

/-- The event that a tag begins with does not depend on the metadata of its request. -/
theorem tagEvent_of_metadata (request : ImageStreamTag) (metadata : ObjectMeta) :
    tagEvent now { request with metadata } = tagEvent now request := rfl

/-- A mapping finds its stream, and is answered, in the namespace that is made out for it. -/
theorem createMapping_effectiveNamespace (ns : String) (mapping : ImageStreamMapping) :
    let target := effectiveNamespace ns mapping.metadata.ns
    createMapping now target { mapping with metadata.ns := target } =
      createMapping now ns mapping := by
  intro target
  simp only [createMapping, effectiveNamespace_self, target]

/-- A new tag finds its stream, or makes one, in the namespace that is made out for it. -/
theorem createTag_effectiveNamespace (ns : String) (request : ImageStreamTag) :
    let target := effectiveNamespace ns request.metadata.ns
    createTag now target { request with metadata.ns := target } = createTag now ns request := by
  intro target
  simp only [createTag, effectiveNamespace_self, tagEvent_of_metadata, target]

/-- Redirecting an action does what the action does about the object in its target. -/
theorem route_inNamespace (verb : Verb) {object : Object} (himage : object.resource ≠ .image)
    (ns : String) :
    route now ((Action.withObject verb object).inNamespace ns) =
      route now (Action.withObject verb (object.inNamespace (object.targetNamespace ns))) := by
  cases object with
  | image image => exact absurd rfl himage
  | stream stream =>
    -- the redirected stream is the one that is moved
    cases verb <;> rfl
  | mapping mapping =>
    -- only creating is supported, and what else is asked for is refused in any namespace
    have hmapping := createMapping_effectiveNamespace now ns mapping
    cases verb with
    | create => exact congrArg (Outcome.mapping <$> ·) hmapping.symm
    | _ => rfl
  | tag request =>
    have htag := createTag_effectiveNamespace now ns request
    cases verb with
    | create => exact congrArg (Outcome.tag <$> ·) htag.symm
    | _ => rfl

/-- The namespace of an action about an image does not matter, except for listing. -/
theorem route_image_inNamespace {verb : Verb} (hverb : verb ≠ .list) (image : Image) (ns : String) :
    route now ((Action.withObject verb (.image image)).inNamespace ns) =
      route now (Action.withObject verb (.image image)) := by
  cases verb with
  | list => exact absurd rfl hverb
  | _ => rfl

/-- In any state, an action about a stream, a mapping or a tag that is redirected to some namespace
does all that the action does about the object in that namespace: both give the same outcome or
error, and leave the same store behind, and report the same. -/
theorem dispatch_inNamespace (c : ControlPlane) {ns : String} (hns : ns ≠ "") (verb : Verb)
    {object : Object} (himage : object.resource ≠ .image) :
    c.serve (dispatch now ((Action.withObject verb object).inNamespace ns)) =
      c.serve (dispatch now (Action.withObject verb (object.inNamespace ns))) := by
  have hroute := route_inNamespace now verb himage ns
  rw [Object.targetNamespace_of_ne hns] at hroute
  have hevent : dispatchEvent ((Action.withObject verb object).inNamespace ns) =
      dispatchEvent (Action.withObject verb (object.inNamespace ns)) := by
    simp [dispatchEvent, Action.withObject, Action.inNamespace]
  rw [dispatch, dispatch, hroute, hevent]

section Redirected

/-- A control plane that stores one stream. -/
def oneStream : ControlPlane :=
  empty.after [(⟨0, 0⟩, .createStream (.empty "test" "app"))]

/-- A mapping whose metadata has some namespace. -/
def mappingIn (ns : String) : ImageStreamMapping :=
  { metadata := .named ns "app", image := { metadata := { name := "image" } }, tag := "latest" }

/-- A mapping whose own namespace has no such stream is redirected to that of the stream: it is
served as a mapping of that namespace, and answered as one. -/
theorem dispatch_inNamespace_mapping :
    let redirected := (Action.create (.mapping (mappingIn "other"))).inNamespace "test"
    oneStream.serve (dispatch ⟨1, 0⟩ redirected) =
        oneStream.serve (dispatch ⟨1, 0⟩ (.create (.mapping (mappingIn "test")))) ∧
      (oneStream.serve (dispatch ⟨1, 0⟩ redirected)).1 = .ok (.mapping (mappingIn "test")) ∧
      (oneStream.serve (dispatch ⟨1, 0⟩ (.create (.mapping (mappingIn "other"))))).1 =
        .error (.notFound .imageStream "other/app") := by
  have himage : (Object.mapping (mappingIn "other")).resource ≠ .image := by decide
  have hsame := dispatch_inNamespace ⟨1, 0⟩ oneStream (by decide : "test" ≠ "") .create himage
  exact ⟨hsame, rfl, rfl⟩

end Redirected

end ControlPlane

end RegistryBench
