import RegistryBench.Proofs.Digest.Grammar
import RegistryBench.Proofs.Storage.Components
import RegistryBench.Storage.Layout
import RegistryBench.Storage.Memory

/-!
# Layout paths

A layout path names the algorithm and the hash of a digest as steps of their own, behind the root
of the registry and, for links, the steps of the repository. The hash is always a name. The
algorithm may have dots, and where it is `.` or `..` the text is no path, so that nothing can be
stored there.

## Main results

- `Layout.split_layerLink`, `Layout.split_revisionLink` and `Layout.split_blobData`: the steps of
  each kind of layout path, whatever text the repository is.
- `Layout.accepted_iff_not_dots`: when layout paths are accepted, and where they lie.
- `Layout.refused_dots`: a digest whose layout paths are all refused.
-/

namespace RegistryBench.Storage

open Text

/-- Hexadecimal digits make a name: none of them is a slash or a dot. -/
theorem isName_of_isLowerHex {text : String} (hne : text ≠ "")
    (h : ∀ c ∈ text.toList, isLowerHex c = true) : IsName text := by
  have hdot : '.' ∉ text.toList := fun hmem => absurd (h _ hmem) (by decide)
  refine ⟨hne, fun hslash => absurd (h _ hslash) (by decide), ?_, ?_⟩
  · rintro rfl
    exact hdot (by decide)
  · rintro rfl
    exact hdot (by decide)

end RegistryBench.Storage

namespace RegistryBench.Digest.WellFormed

open Storage

variable {digest : Digest}

/-- The algorithm of a digest has no slash, so that it is one component of a path. -/
theorem slash_not_mem_algorithm (h : digest.WellFormed) : '/' ∉ digest.algorithm.toList :=
  fun hslash => absurd (h.algorithm_chars _ hslash) (by decide)

/-- Dots are characters of algorithms, so an algorithm may be one of the two steps that are no
names. -/
theorem isName_algorithm_iff (h : digest.WellFormed) :
    IsName digest.algorithm ↔ digest.algorithm ≠ "." ∧ digest.algorithm ≠ ".." :=
  ⟨fun hname => hname.2.2, fun hdots => ⟨h.algorithm_ne, h.slash_not_mem_algorithm, hdots⟩⟩

/-- The hexadecimal digits of a digest are a name. -/
theorem isName_hex (h : digest.WellFormed) : IsName digest.hex :=
  isName_of_isLowerHex h.hex_ne h.hex_chars

/-- The first two hexadecimal digits of a digest are a name. -/
theorem isName_shard (h : digest.WellFormed) : IsName (Layout.shard digest.hex) := by
  have hdigits : (Layout.shard digest.hex).toList = digest.hex.toList.take 2 :=
    String.toList_ofList
  refine isName_of_isLowerHex (fun hempty => ?_) fun c hc => ?_
  · -- two digits of a hash that is not empty are not nothing
    rw [hempty] at hdigits
    have hnil : digest.hex.toList = [] := by simpa using hdigits.symm
    exact h.hex_ne (String.toList_eq_nil_iff.1 hnil)
  · rw [hdigits] at hc
    exact h.hex_chars c (List.mem_of_mem_take hc)

end RegistryBench.Digest.WellFormed

namespace RegistryBench.Storage

open Text

/-! ### Splitting at slashes -/

/-- Texts that are joined by a slash are split one after the other. -/
theorem split_slash (text rest : String) :
    split '/' (text ++ "/" ++ rest) = split '/' text ++ split '/' rest :=
  split_append '/' text rest

/-- A text without a slash is not split. -/
theorem split_of_slash_not_mem {text : String} (h : '/' ∉ text.toList) :
    split '/' text = [text] := by
  have hpieces : ∀ piece ∈ [text], '/' ∉ piece.toList := by simpa using h
  simpa using split_intercalate hpieces (List.cons_ne_nil _ _)

/-- Joining the names of a place and splitting at the slashes gives the names back. -/
theorem Place.split_intercalate_texts {place : Place} (h : place ≠ []) :
    split '/' ("/".intercalate place.texts) = place.texts :=
  split_intercalate (fun _ htext => (isName_of_mem_texts htext).2.1)
    fun hnil => h (List.map_eq_nil_iff.1 hnil)

/-- A text that splits into nothing and then two steps or more is a path when these are names. -/
theorem isPath_iff_of_split {path : String} {steps : List String}
    (hsplit : split '/' path = "" :: steps) (hsteps : 2 ≤ steps.length) :
    isPath path = true ↔ ∀ step ∈ steps, IsName step := by
  -- the root splits into one step only, so it is not the path
  have hroot : path ≠ "/" := by
    rintro rfl
    rw [show split '/' "/" = ["", ""] by decide] at hsplit
    obtain rfl := (List.cons.inj hsplit).2
    exact absurd hsteps (by decide)
  have hne : steps ≠ [] := by
    rintro rfl
    exact absurd hsteps (by decide)
  rw [isPath_iff_split hroot, hsplit]
  constructor
  · rintro ⟨texts, htexts, -, hnames⟩
    obtain rfl := (List.cons.inj htexts).2
    exact hnames
  · intro hnames
    exact ⟨steps, rfl, hne, hnames⟩

/-- What is not the root can be written when it is a path. -/
theorem Files.put_eq_ite {path : String} (hroot : path ≠ "/") (files : Files) (content : Bytes) :
    files.put path content =
      if isPath path then .ok ⟨files.contents.insert path content⟩
      else .error (.invalidPath path) := by
  rw [put, checkPath, if_neg hroot]
  split
  next => rfl
  next => rfl

namespace Layout

/-! ### Steps of layout paths -/

/-- Where all data of a registry lies, as a place. -/
def rootPlace : Place :=
  [⟨"docker", by decide⟩, ⟨"registry", by decide⟩, ⟨"v2", by decide⟩]

theorem path_rootPlace : rootPlace.path = root := by decide

theorem split_root : split '/' root = "" :: rootPlace.texts := by
  have hne : rootPlace ≠ [] := List.cons_ne_nil _ _
  rw [← path_rootPlace, Place.path_of_ne_nil hne, Place.split_stem]

variable {digest : Digest}

/-- The components of a link to a layer: the repository may have several. -/
theorem split_layerLink (h : digest.WellFormed) (repository : String) :
    split '/' (layerLink repository digest) =
      "" :: ((rootPlace.texts ++ "repositories" :: split '/' repository ++ ["_layers"]) ++
        digest.algorithm :: [digest.hex, "link"]) := by
  have htext : layerLink repository digest =
      root ++ "/" ++ "repositories" ++ "/" ++ repository ++ "/" ++ "_layers" ++ "/" ++
        digest.algorithm ++ "/" ++ digest.hex ++ "/" ++ "link" := by
    simp [layerLink, ← String.toList_inj]
  have hfixed : ∀ step ∈ ["repositories", "_layers", "link"], split '/' step = [step] := by decide
  have halgorithm := split_of_slash_not_mem h.slash_not_mem_algorithm
  have hhex := split_of_slash_not_mem h.isName_hex.2.1
  rw [htext]
  simp [split_slash, split_root, hfixed, halgorithm, hhex]

/-- The components of a link to a revision: the repository may have several. -/
theorem split_revisionLink (h : digest.WellFormed) (repository : String) :
    split '/' (revisionLink repository digest) =
      "" :: ((rootPlace.texts ++ "repositories" :: split '/' repository ++
        ["_manifests", "revisions"]) ++ digest.algorithm :: [digest.hex, "link"]) := by
  have htext : revisionLink repository digest =
      root ++ "/" ++ "repositories" ++ "/" ++ repository ++ "/" ++ "_manifests" ++ "/" ++
        "revisions" ++ "/" ++ digest.algorithm ++ "/" ++ digest.hex ++ "/" ++ "link" := by
    simp [revisionLink, ← String.toList_inj]
  have hfixed : ∀ step ∈ ["repositories", "_manifests", "revisions", "link"],
      split '/' step = [step] := by decide
  have halgorithm := split_of_slash_not_mem h.slash_not_mem_algorithm
  have hhex := split_of_slash_not_mem h.isName_hex.2.1
  rw [htext]
  simp [split_slash, split_root, hfixed, halgorithm, hhex]

/-- The components of the data of a blob. -/
theorem split_blobData (h : digest.WellFormed) :
    split '/' (blobData digest) =
      "" :: ((rootPlace.texts ++ ["blobs"]) ++
        digest.algorithm :: [shard digest.hex, digest.hex, "data"]) := by
  have htext : blobData digest =
      root ++ "/" ++ "blobs" ++ "/" ++ digest.algorithm ++ "/" ++ shard digest.hex ++ "/" ++
        digest.hex ++ "/" ++ "data" := by
    simp [blobData, ← String.toList_inj]
  have hfixed : ∀ step ∈ ["blobs", "data"], split '/' step = [step] := by decide
  have halgorithm := split_of_slash_not_mem h.slash_not_mem_algorithm
  have hshard := split_of_slash_not_mem h.isName_shard.2.1
  have hhex := split_of_slash_not_mem h.isName_hex.2.1
  rw [htext]
  simp [split_slash, split_root, hfixed, halgorithm, hshard, hhex]

/-! ### Accepted layout paths -/

/-- The layout paths of a digest, for some repository. -/
def paths (repository : String) (digest : Digest) : List String :=
  [layerLink repository digest, revisionLink repository digest, blobData digest]

/-- Layout paths lie below the root, and have the algorithm as one step among names. -/
theorem exists_split_of_mem_paths (h : digest.WellFormed) {repository : Place}
    (hrepository : repository ≠ []) {path : String}
    (hpath : path ∈ paths ("/".intercalate repository.texts) digest) :
    ∃ before after : Place, split '/' path =
      "" :: (rootPlace.texts ++ (before.texts ++ digest.algorithm :: after.texts)) := by
  have hnames := Place.split_intercalate_texts hrepository
  -- the hash and the fixed steps are names; only the algorithm need not be one
  let hex : Component := ⟨digest.hex, h.isName_hex⟩
  let repositories : Component := ⟨"repositories", by decide⟩
  let link : Component := ⟨"link", by decide⟩
  simp only [paths, List.mem_cons, List.not_mem_nil, or_false] at hpath
  obtain rfl | rfl | rfl := hpath
  · refine ⟨repositories :: repository ++ [⟨"_layers", by decide⟩], [hex, link], ?_⟩
    rw [split_layerLink h, hnames]
    simp [repositories, hex, link]
  · refine ⟨repositories :: repository ++ [⟨"_manifests", by decide⟩, ⟨"revisions", by decide⟩],
      [hex, link], ?_⟩
    rw [split_revisionLink h, hnames]
    simp [repositories, hex, link]
  · refine ⟨[⟨"blobs", by decide⟩],
      [⟨shard digest.hex, h.isName_shard⟩, hex, ⟨"data", by decide⟩], ?_⟩
    rw [split_blobData h]
    simp [hex]

/-- When all steps but the algorithm are names, the algorithm decides. -/
theorem isPath_iff_of_steps (h : digest.WellFormed) {path : String} {before after : Place}
    (hsplit : split '/' path =
      "" :: (rootPlace.texts ++ (before.texts ++ digest.algorithm :: after.texts))) :
    isPath path = true ↔ digest.algorithm ≠ "." ∧ digest.algorithm ≠ ".." := by
  have hsteps :
      2 ≤ (rootPlace.texts ++ (before.texts ++ digest.algorithm :: after.texts)).length := by
    rw [List.length_append]
    exact Nat.le_add_right_of_le (by decide)
  rw [isPath_iff_of_split hsplit hsteps, ← h.isName_algorithm_iff]
  constructor
  · intro hnames
    exact hnames _ (by simp)
  · intro hname step hstep
    -- the other steps are those of places
    simp only [List.mem_append, List.mem_cons] at hstep
    obtain hstep | hstep | rfl | hstep := hstep
    · exact Place.isName_of_mem_texts hstep
    · exact Place.isName_of_mem_texts hstep
    · exact hname
    · exact Place.isName_of_mem_texts hstep

/-- A path below the root of the layout is not the root of the storage. -/
theorem ne_slash_of_split {path : String} {steps : List String}
    (hsplit : split '/' path = "" :: (rootPlace.texts ++ steps)) : path ≠ "/" := by
  rintro rfl
  exact absurd hsplit (by simp [show split '/' "/" = ["", ""] by decide, rootPlace])

/-- Steps that begin with those of the root belong to a place below it. -/
theorem below_root_of_split {place : Place} {steps : List String} (hne : steps ≠ [])
    (hsplit : split '/' place.path = "" :: (rootPlace.texts ++ steps)) :
    ∃ c rest, place = rootPlace ++ c :: rest := by
  have hplace : place ≠ [] := mt Place.path_eq_root_iff.2 (ne_slash_of_split hsplit)
  rw [Place.path_of_ne_nil hplace, Place.split_stem] at hsplit
  obtain ⟨first, more, rfl, hfirst, hmore⟩ := List.map_eq_append_iff.1 (List.cons.inj hsplit).2
  obtain rfl : first = rootPlace := Place.texts_injective hfirst
  cases more with
  | nil => exact absurd hmore.symm hne
  | cons c rest => exact ⟨c, rest, rfl⟩

/-- The layout paths of a digest that was read are accepted just when the algorithm is neither `.`
nor `..`. Then a write puts the file in place, and otherwise it is refused. So nothing is ever
written outside of the root of the registry. -/
theorem accepted_iff_not_dots {raw : String} {digest : Digest}
    (hparse : Digest.parse raw = .ok digest) {repository : Place} (hrepository : repository ≠ [])
    {path : String} (hpath : path ∈ paths ("/".intercalate repository.texts) digest) :
    (isPath path = true ↔ digest.algorithm ≠ "." ∧ digest.algorithm ≠ "..") ∧
      (∀ (files : Files) (content : Bytes), files.put path content =
        if digest.algorithm = "." ∨ digest.algorithm = ".." then .error (.invalidPath path)
        else .ok ⟨files.contents.insert path content⟩) ∧
      ∀ place : Place, place.path = path → ∃ c rest, place = rootPlace ++ c :: rest := by
  have h := (Digest.parse_eq_ok_iff.1 hparse).2
  obtain ⟨before, after, hsplit⟩ := exists_split_of_mem_paths h hrepository hpath
  have haccepted := isPath_iff_of_steps h hsplit
  refine ⟨haccepted, fun files content => ?_, ?_⟩
  · rw [Files.put_eq_ite (ne_slash_of_split hsplit)]
    by_cases hdots : digest.algorithm = "." ∨ digest.algorithm = ".."
    · rw [if_pos hdots, if_neg fun hpath => not_or.2 (haccepted.1 hpath) hdots]
    · rw [if_neg hdots, if_pos (haccepted.2 (not_or.1 hdots))]
  · rintro place rfl
    exact below_root_of_split (by simp) hsplit

/-- The links and the content of a digest of another algorithm, for a repository of two steps. -/
theorem accepted_iff_not_dots_dotted :
    let digest : Digest := ⟨"sha512.256", "0"⟩
    Digest.parse "sha512.256:0" = .ok digest ∧
      paths "library/app" digest =
        ["/docker/registry/v2/repositories/library/app/_layers/sha512.256/0/link",
          "/docker/registry/v2/repositories/library/app/_manifests/revisions/sha512.256/0/link",
          "/docker/registry/v2/blobs/sha512.256/0/0/data"] ∧
      ∀ path ∈ paths "library/app" digest, isPath path = true ∧
        Files.empty.put path [1] = .ok ⟨Files.empty.contents.insert path [1]⟩ := by
  intro digest
  have hparse : Digest.parse "sha512.256:0" = .ok digest := by decide
  refine ⟨hparse, by decide, fun path hpath => ?_⟩
  let repository : Place := [⟨"library", by decide⟩, ⟨"app", by decide⟩]
  have hnames : "/".intercalate repository.texts = "library/app" := by decide
  rw [← hnames] at hpath
  obtain ⟨haccepted, hput, -⟩ :=
    accepted_iff_not_dots hparse (List.cons_ne_nil _ _ : repository ≠ []) hpath
  exact ⟨haccepted.2 (by decide), hput Files.empty [1]⟩

/-- A digest of the algorithm `..` is read, and nothing can be stored under its layout paths. -/
theorem refused_dots :
    let digest : Digest := ⟨"..", "ab"⟩
    Digest.parse "..:ab" = .ok digest ∧
      paths "app" digest =
        ["/docker/registry/v2/repositories/app/_layers/../ab/link",
          "/docker/registry/v2/repositories/app/_manifests/revisions/../ab/link",
          "/docker/registry/v2/blobs/../ab/ab/data"] ∧
      ∀ path ∈ paths "app" digest, isPath path = false ∧
        Files.empty.put path [1] = .error (.invalidPath path) := by
  decide

end Layout

end RegistryBench.Storage
