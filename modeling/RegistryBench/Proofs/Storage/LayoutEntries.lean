import RegistryBench.Proofs.Storage.LayoutPaths

/-!
# What layout paths stand for

A layout path is read from its end: the last steps say of which kind it is and name the digest, and
what is left in front of them is the repository. So a repository may be any text, one with slashes
or with the steps of a layout path among its own, and still no path stands for two things. The
digest has to be one that was read, since it must not bring slashes of its own.

## Main definitions

* `Entry`: what the layout has paths for.
* `Entry.ofPath?`: the entry that a text stands for, as a path of the layout.

## Main results

* `Entry.ofPath?_path`: the path of an entry stands for that entry.
* `layoutPaths_eq_iff`: layout paths of one kind are equal only for one repository and one digest,
  and layout paths of two kinds are never equal.
-/

namespace RegistryBench.Storage.Layout

open Text

/-- What the layout has a path for. -/
inductive Entry where
  /-- The link of a layer in a repository. -/
  | layer (repository : String) (digest : Digest)
  /-- The link of a manifest revision in a repository. -/
  | revision (repository : String) (digest : Digest)
  /-- The content of a blob. -/
  | blob (digest : Digest)
deriving DecidableEq

namespace Entry

/-- The digest of an entry. -/
def digest : Entry → Digest
  | layer _ digest => digest
  | revision _ digest => digest
  | blob digest => digest

/-- The path of an entry. -/
def path : Entry → String
  | layer repository digest => layerLink repository digest
  | revision repository digest => revisionLink repository digest
  | blob digest => blobData digest

/-- The repository that some steps in front of a link name, the last step first: what follows the
root and the directory of the repositories. -/
def repositoryOf (steps : List String) : String :=
  "/".intercalate (steps.reverse.drop ("" :: rootPlace.texts ++ ["repositories"]).length)

/-- The entry that a text stands for, as a path of the layout. The steps are looked at from the last
one on. -/
def ofPath? (path : String) : Option Entry :=
  match (split '/' path).reverse with
  | "link" :: hex :: algorithm :: "_layers" :: steps =>
    some (layer (repositoryOf steps) ⟨algorithm, hex⟩)
  | "link" :: hex :: algorithm :: "revisions" :: "_manifests" :: steps =>
    some (revision (repositoryOf steps) ⟨algorithm, hex⟩)
  | "data" :: hex :: _ :: algorithm :: _ => some (blob ⟨algorithm, hex⟩)
  | _ => none

/-- Behind the root and the directory of the repositories stand the steps of the repository,
whatever they are. -/
theorem repositoryOf_reverse (repository : String) :
    repositoryOf ("" :: rootPlace.texts ++ "repositories" :: split '/' repository).reverse =
      repository := by
  have hsteps : "" :: rootPlace.texts ++ "repositories" :: split '/' repository =
      ("" :: rootPlace.texts ++ ["repositories"]) ++ split '/' repository := by simp
  rw [repositoryOf, List.reverse_reverse, hsteps, List.drop_left]
  exact intercalate_split '/' repository

/-- The path of an entry stands for that entry. -/
theorem ofPath?_path {entry : Entry} (h : entry.digest.WellFormed) :
    ofPath? entry.path = some entry := by
  cases entry with
  | layer repository digest =>
    -- behind the repository stand four steps, whatever the digest is
    have hdigest : digest.WellFormed := h
    have hsplit := split_layerLink hdigest repository
    have hsteps : (split '/' (layerLink repository digest)).reverse =
        "link" :: digest.hex :: digest.algorithm :: "_layers" ::
          ("" :: rootPlace.texts ++ "repositories" :: split '/' repository).reverse := by
      simp [hsplit]
    simp only [path, ofPath?, hsteps, repositoryOf_reverse]
  | revision repository digest =>
    have hdigest : digest.WellFormed := h
    have hsplit := split_revisionLink hdigest repository
    have hsteps : (split '/' (revisionLink repository digest)).reverse =
        "link" :: digest.hex :: digest.algorithm :: "revisions" :: "_manifests" ::
          ("" :: rootPlace.texts ++ "repositories" :: split '/' repository).reverse := by
      simp [hsplit]
    simp only [path, ofPath?, hsteps, repositoryOf_reverse]
  | blob digest =>
    -- the shard is left to the hash
    have hdigest : digest.WellFormed := h
    have hsplit := split_blobData hdigest
    have hsteps : (split '/' (blobData digest)).reverse =
        "data" :: digest.hex :: shard digest.hex :: digest.algorithm ::
          ("" :: rootPlace.texts ++ ["blobs"]).reverse := by
      simp [hsplit]
    simp only [path, ofPath?, hsteps]

/-- Different entries have different paths. -/
theorem path_eq_path_iff (entry other : Entry) (h : entry.digest.WellFormed)
    (hother : other.digest.WellFormed) : entry.path = other.path ↔ entry = other := by
  refine ⟨fun heq => Option.some.inj ?_, congrArg path⟩
  rw [← ofPath?_path h, ← ofPath?_path hother, heq]

end Entry

/-- The layout paths of two digests that were read, in any repositories, are equal only when they
are of one kind, and name one repository and one digest. -/
theorem layoutPaths_eq_iff {raw raw' : String} {digest digest' : Digest}
    (hparse : Digest.parse raw = .ok digest) (hparse' : Digest.parse raw' = .ok digest')
    (repository repository' : String) :
    (layerLink repository digest = layerLink repository' digest' ↔
        repository = repository' ∧ digest = digest') ∧
      (revisionLink repository digest = revisionLink repository' digest' ↔
        repository = repository' ∧ digest = digest') ∧
      (blobData digest = blobData digest' ↔ digest = digest') ∧
      layerLink repository digest ≠ revisionLink repository' digest' ∧
      layerLink repository digest ≠ blobData digest' ∧
      revisionLink repository digest ≠ blobData digest' := by
  have h := (Digest.parse_eq_ok_iff.1 hparse).2
  have h' := (Digest.parse_eq_ok_iff.1 hparse').2
  let layer : Entry := .layer repository digest
  let layer' : Entry := .layer repository' digest'
  let revision : Entry := .revision repository digest
  let revision' : Entry := .revision repository' digest'
  let blob' : Entry := .blob digest'
  -- where paths are equal, the entries are: they are of one kind and have equal parts
  refine ⟨?_, ?_, ?_, fun heq => ?_, fun heq => ?_, fun heq => ?_⟩
  · have hentries := Entry.path_eq_path_iff layer layer' h h'
    rwa [Entry.layer.injEq] at hentries
  · have hentries := Entry.path_eq_path_iff revision revision' h h'
    rwa [Entry.revision.injEq] at hentries
  · have hentries := Entry.path_eq_path_iff (.blob digest) blob' h h'
    rwa [Entry.blob.injEq] at hentries
  · exact Entry.noConfusion ((Entry.path_eq_path_iff layer revision' h h').1 heq)
  · exact Entry.noConfusion ((Entry.path_eq_path_iff layer blob' h h').1 heq)
  · exact Entry.noConfusion ((Entry.path_eq_path_iff revision blob' h h').1 heq)

/-- A repository may end in the steps of a revision link, and an algorithm may have the name of a
directory. The link of a layer in such a repository is neither that of the revision it looks like,
nor that of the layer in the repository in front; and a hash of one digit is not its double. -/
theorem layoutPaths_eq_iff_lookAlike :
    let digest : Digest := ⟨"_layers", "a"⟩
    let double : Digest := ⟨"_layers", "aa"⟩
    (Digest.parse "_layers:a" = .ok digest ∧ Digest.parse "_layers:aa" = .ok double) ∧
      layerLink "app/_manifests/revisions" digest =
        "/docker/registry/v2/repositories/app/_manifests/revisions/_layers/_layers/a/link" ∧
      revisionLink "app" digest =
        "/docker/registry/v2/repositories/app/_manifests/revisions/_layers/a/link" ∧
      layerLink "app/_manifests/revisions" digest ≠ revisionLink "app" digest ∧
      layerLink "app/_manifests/revisions" digest ≠ layerLink "app" digest ∧
      blobData digest ≠ blobData double := by
  intro digest double
  have hdigest : Digest.parse "_layers:a" = .ok digest := by decide
  have hdouble : Digest.parse "_layers:aa" = .ok double := by decide
  obtain ⟨hlayer, -, -, hkinds, -⟩ :=
    layoutPaths_eq_iff hdigest hdigest "app/_manifests/revisions" "app"
  obtain ⟨-, -, hblob, -⟩ := layoutPaths_eq_iff hdigest hdouble "app" "app"
  have hrepository : "app/_manifests/revisions" ≠ "app" := by decide
  have hhash : digest ≠ double := by decide
  exact ⟨⟨hdigest, hdouble⟩, by decide, by decide, hkinds,
    fun heq => hrepository (hlayer.1 heq).1, fun heq => hhash (hblob.1 heq)⟩

end RegistryBench.Storage.Layout
