import RegistryBench.Proofs.ControlPlane.ImageVersions
import RegistryBench.Proofs.Tables

/-!
# Listing and showing what is stored

Images and streams are stored under what their metadata says, however they were written. Therefore
a listing, which goes through the keys of streams and the metadata of images, shows the resources
in a namespace, and these are the ones that are shown when one asks for them by what their metadata
says (`listings_after`).
-/

namespace RegistryBench

namespace StreamKey

/-- One key comes before another: by the namespaces, or by the names within one namespace. -/
def Precedes (first second : StreamKey) : Prop :=
  first.ns < second.ns ∨ first.ns = second.ns ∧ first.name < second.name

/-- Keys are ordered by namespace and name. -/
theorem compare_eq_lt_iff {first second : StreamKey} :
    compare first second = .lt ↔ first.Precedes second := by
  have hthen : compare first second =
      (compare first.ns second.ns).then (compare first.name second.name) := rfl
  rw [hthen, Ordering.then_eq_lt, Std.LawfulEqOrd.compare_eq_iff_eq]
  exact or_congr compareOfLessAndEq_eq_lt (and_congr_right' compareOfLessAndEq_eq_lt)

end StreamKey

namespace Store

variable {store : Store}

/-- Images are stored under their names. -/
theorem WellFormed.keyed_images (h : store.WellFormed) : Tables.Keyed Image.name store.images :=
  fun _ _ hstored => h.image_name hstored

/-- Streams are stored under their keys. -/
theorem WellFormed.keyed_streams (h : store.WellFormed) :
    Tables.Keyed ImageStream.key store.streams :=
  fun _ _ hstored => h.stream_key hstored

/-! ### Images -/

/-- The images in a namespace are listed. -/
theorem mem_listImages_iff (h : store.WellFormed) (ns : String) (image : Image) :
    image ∈ store.listImages ns ↔
      store.image? image.name = some image ∧ (ns = "" ∨ image.metadata.ns = ns) := by
  rw [listImages, List.mem_filter, Tables.mem_values_iff_of_keyed h.keyed_images,
    decide_eq_true_iff]
  rfl

/-- Images are listed by name. -/
theorem pairwise_listImages (h : store.WellFormed) (ns : String) :
    (store.listImages ns).Pairwise fun first second => first.name < second.name := by
  refine List.Pairwise.filter _ ?_
  exact (Tables.pairwise_values_of_keyed h.keyed_images).imp compareOfLessAndEq_eq_lt.1

/-! ### Streams -/

/-- The key of a stream may be read off its metadata, so the streams are listed that are in the
namespace by their metadata. -/
theorem listStreams_eq (h : store.WellFormed) (ns : String) :
    store.listStreams ns =
      store.streams.values.filter fun stream => ns = "" ∨ stream.metadata.ns = ns := by
  rw [listStreams, Tables.values_eq_map_toList, List.filter_map]
  refine congrArg (List.map Prod.snd) (List.filter_congr ?_)
  rintro ⟨key, stream⟩ hmem
  have hkey : stream.key = key :=
    h.stream_key (Std.ExtTreeMap.mem_toList_iff_getElem?_eq_some.1 hmem)
  rw [← hkey]
  rfl

/-- The streams in a namespace are listed. -/
theorem mem_listStreams_iff (h : store.WellFormed) (ns : String) (stream : ImageStream) :
    stream ∈ store.listStreams ns ↔
      store.streams[stream.key]? = some stream ∧ (ns = "" ∨ stream.metadata.ns = ns) := by
  rw [listStreams_eq h, List.mem_filter, Tables.mem_values_iff_of_keyed h.keyed_streams,
    decide_eq_true_iff]

/-- Streams are listed by namespace and name. -/
theorem pairwise_listStreams (h : store.WellFormed) (ns : String) :
    (store.listStreams ns).Pairwise fun first second => first.key.Precedes second.key := by
  rw [listStreams_eq h]
  refine List.Pairwise.filter _ ?_
  exact (Tables.pairwise_values_of_keyed h.keyed_streams).imp StreamKey.compare_eq_lt_iff.1

/-- The stream of some key is found when it is stored. -/
theorem getStream_eq_ok_iff {key : StreamKey} {stream : ImageStream} :
    store.getStream key = .ok stream ↔ store.streams[key]? = some stream := by
  rw [getStream]
  cases store.streams[key]? with
  | none => simp
  | some stored => simp

end Store

namespace ControlPlane

/-- After every run, each image and each stream is stored under what its metadata says. A listing
shows the stored resources in the namespace, or all when it is empty, in strictly ascending order,
hence each once. They are those that are shown when asked for by what their metadata says. -/
theorem listings_after (operations : List (Timestamp × Operation)) (now : Timestamp) :
    let c := empty.after operations
    let answer (operation : Operation) := (c.serve (perform now operation)).1
    (∀ name image, c.store.image? name = some image → image.name = name) ∧
      (∀ (key : StreamKey) stream, c.store.streams[key]? = some stream → stream.key = key) ∧
      (∀ ns, ∃ images, answer (.listImages ns) = .ok (.images images) ∧
        images.Pairwise (fun first second => first.name < second.name) ∧
        ∀ image : Image,
          (image ∈ images ↔ (∃ name, c.store.image? name = some image) ∧
            (ns = "" ∨ image.metadata.ns = ns)) ∧
          (image ∈ images ↔ answer (.getImage image.name) = .ok (.image image) ∧
            (ns = "" ∨ image.metadata.ns = ns))) ∧
      ∀ ns, ∃ streams, answer (.listStreams ns) = .ok (.streams streams) ∧
        streams.Pairwise (fun first second => first.key.Precedes second.key) ∧
        ∀ stream : ImageStream,
          (stream ∈ streams ↔ (∃ key : StreamKey, c.store.streams[key]? = some stream) ∧
            (ns = "" ∨ stream.metadata.ns = ns)) ∧
          (stream ∈ streams ↔ answer (.getStream stream.key) = .ok (.stream stream) ∧
            (ns = "" ∨ stream.metadata.ns = ns)) := by
  intro c answer
  have hc : c.store.WellFormed := wellFormed_after operations
  have hanswer (operation : Operation) :
      answer operation = (operation.request.effect now c.store).1 := answer_serve hc now operation
  refine ⟨fun _ _ => hc.image_name, fun _ _ => hc.stream_key, fun ns => ?_, fun ns => ?_⟩
  · refine ⟨c.store.listImages ns, hanswer _, Store.pairwise_listImages hc ns, fun image => ?_⟩
    have hshown : answer (.getImage image.name) = .ok (.image image) ↔
        c.store.image? image.name = some image := by
      rw [hanswer]
      refine map_eq_ok_iff.trans ?_
      simp only [Store.getImage_eq_ok_iff, Outcome.image.injEq, exists_eq_right]
    -- a stored image is stored under its own name, so no other name need be tried
    have hstored : (∃ name, c.store.image? name = some image) ↔
        c.store.image? image.name = some image :=
      ⟨fun ⟨_, h⟩ => hc.image_name h ▸ h, fun h => ⟨_, h⟩⟩
    rw [hshown, hstored]
    exact ⟨Store.mem_listImages_iff hc ns image, Store.mem_listImages_iff hc ns image⟩
  · refine ⟨c.store.listStreams ns, hanswer _, Store.pairwise_listStreams hc ns, fun stream => ?_⟩
    have hshown : answer (.getStream stream.key) = .ok (.stream stream) ↔
        c.store.streams[stream.key]? = some stream := by
      rw [hanswer]
      refine map_eq_ok_iff.trans ?_
      simp only [Store.getStream_eq_ok_iff, Outcome.stream.injEq, exists_eq_right]
    -- in the same way a stream is stored under its own key
    have hstored : (∃ key : StreamKey, c.store.streams[key]? = some stream) ↔
        c.store.streams[stream.key]? = some stream :=
      ⟨fun ⟨_, h⟩ => hc.stream_key h ▸ h, fun h => ⟨_, h⟩⟩
    rw [hshown, hstored]
    exact ⟨Store.mem_listStreams_iff hc ns stream, Store.mem_listStreams_iff hc ns stream⟩

section Relocated

/-- A stream is created in another namespace than its metadata says, a second one for a new tag, and
an image is created without a namespace. -/
def relocated : List (Timestamp × Operation) :=
  [(⟨0, 0⟩, .dispatch ((Action.create (.stream (.empty "test" "web"))).inNamespace "live")),
    (⟨1, 0⟩, .createTag "" { metadata := .named "test" "app:latest", tag := none, image := {} }),
    (⟨2, 0⟩, .createImage { metadata := .named "" "one" })]

/-- The relocated stream is stored and listed in its new namespace only. The image is listed among
all images, and shown by its name. -/
theorem listings_after_relocated :
    let c := empty.after relocated
    let answer (operation : Operation) := (c.serve (perform ⟨3, 0⟩ operation)).1
    let web : ImageStream := Store.stamp (.empty "live" "web") (some ⟨0, 0⟩)
    let one : Image := { metadata := .named "" "one" }
    (c.store.streams[(⟨"live", "web"⟩ : StreamKey)]? = some web ∧ web.key = ⟨"live", "web"⟩) ∧
      (c.store.image? "one" = some one ∧ one.name = "one") ∧
      (∃ streams, answer (.listStreams "live") = .ok (.streams streams) ∧ web ∈ streams) ∧
      (∃ streams, answer (.listStreams "test") = .ok (.streams streams) ∧ web ∉ streams) ∧
      ∃ images, answer (.listImages "") = .ok (.images images) ∧ one ∈ images ∧
        answer (.getImage "one") = .ok (.image one) := by
  intro c answer web one
  obtain ⟨hname, hkey, himages, hstreams⟩ := listings_after relocated ⟨3, 0⟩
  have hweb : c.store.streams[(⟨"live", "web"⟩ : StreamKey)]? = some web := by decide +kernel
  have hone : c.store.image? "one" = some one := by rfl
  obtain ⟨live, hlive, -, hmem⟩ := hstreams "live"
  obtain ⟨test, htest, -, hmem'⟩ := hstreams "test"
  obtain ⟨images, hall, -, hmem''⟩ := himages ""
  have hlisted : one ∈ images := (hmem'' one).1.2 ⟨⟨"one", hone⟩, Or.inl rfl⟩
  refine ⟨⟨hweb, hkey _ _ hweb⟩, ⟨hone, hname _ _ hone⟩, ⟨live, hlive, ?_⟩, ⟨test, htest, ?_⟩,
    images, hall, hlisted, ((hmem'' one).2.1 hlisted).1⟩
  · exact (hmem web).1.2 ⟨⟨_, hweb⟩, Or.inr rfl⟩
  · rw [(hmem' web).1]
    rintro ⟨-, hns⟩
    revert hns
    decide

end Relocated

end ControlPlane

end RegistryBench
