import Mathlib.Data.Finset.Sort
import Mathlib.Data.Finset.Union
import Mathlib.Data.List.Infix
import Mathlib.Data.String.Basic
import RegistryBench.Proofs.Storage.Components
import RegistryBench.Storage.Memory

/-!
# Storage in memory is a tree

Storage in memory compares texts: it looks for prefixes, strips them and cuts at slashes. What it
answers is nevertheless what a tree of files answers, whose files are kept by the steps to them and
in which below is a matter of whole steps.

## Main results

- `Represents.perform`: a request is answered alike, and leaves the files those of the tree.
- `Tree.file?_after_iff`: a file holds what was written last and not removed since.
- `Files.refines_tree`: every run on storage in memory is the run on the tree.
-/

namespace RegistryBench.Storage

/-! ### Requests to a backend -/

/-- A request to a backend. -/
inductive Request where
  /-- Write a file. -/
  | put (path : String) (content : Bytes)
  /-- Read a file. -/
  | get (path : String)
  /-- Ask about a path. -/
  | stat (path : String)
  /-- List a directory. -/
  | list (path : String)
  /-- Remove a path. -/
  | delete (path : String)
deriving DecidableEq

/-- What a backend replies to a request. -/
inductive Reply where
  /-- A write or a removal was done or refused. -/
  | changed (result : Except Fault Unit)
  /-- The content of a file. -/
  | content (result : Except Fault Bytes)
  /-- What is known about a path. -/
  | info (result : Except Fault FileInfo)
  /-- The children of a directory. -/
  | children (result : Except Fault (List String))
deriving DecidableEq

namespace Backend

variable {σ : Type}

/-- A change that is done or refused: the reply and the state, which a refusal leaves. -/
def change (state : σ) : Except Fault σ → Reply × σ
  | .ok changed => (.changed (.ok ()), changed)
  | .error fault => (.changed (.error fault), state)

/-- The reply to a request and the state afterwards. -/
def perform (backend : Backend σ) (state : σ) : Request → Reply × σ
  | .put path content => change state (backend.put state path content)
  | .get path => (.content (backend.get state path), state)
  | .stat path => (.info (backend.stat state path), state)
  | .list path => (.children (backend.list state path), state)
  | .delete path => change state (backend.delete state path)

/-- The state after requests. -/
def after (backend : Backend σ) (state : σ) (requests : List Request) : σ :=
  requests.foldl (fun state request => (backend.perform state request).2) state

/-- The replies to requests, in order. -/
def replies (backend : Backend σ) (state : σ) : List Request → List Reply
  | [] => []
  | request :: requests =>
    (backend.perform state request).1 :: backend.replies (backend.perform state request).2 requests

@[simp]
theorem after_nil (backend : Backend σ) (state : σ) : backend.after state [] = state := rfl

@[simp]
theorem after_cons (backend : Backend σ) (state : σ) (request : Request)
    (requests : List Request) :
    backend.after state (request :: requests) =
      backend.after (backend.perform state request).2 requests := rfl

theorem after_concat (backend : Backend σ) (state : σ) (requests : List Request)
    (request : Request) :
    backend.after state (requests ++ [request]) =
      (backend.perform (backend.after state requests) request).2 := by
  simp [after, List.foldl_append]

end Backend

/-! ### Trees -/

/-- A tree of files: finitely many places, each of which has a content. -/
structure Tree where
  /-- Where files are. -/
  places : Finset Place
  /-- The content of the file at a place. -/
  file? : Place → Option Bytes
  /-- Files are where a content can be found. -/
  mem_places : ∀ place, place ∈ places ↔ (file? place).isSome
  /-- The root is no file. -/
  root_notMem : [] ∉ places

/-- Answer about the place of a path. Other texts are refused. -/
def answerAt {α : Type} (path : String) (answer : Place → Except Fault α) : Except Fault α :=
  match place? path with
  | some place => answer place
  | none => .error (.invalidPath path)

namespace Tree

/-- No files. -/
def empty : Tree where
  places := ∅
  file? _ := none
  mem_places := by simp
  root_notMem := Finset.notMem_empty _

/-- Put one file in place. -/
def write (tree : Tree) (place : Place) (hplace : place ≠ []) (content : Bytes) : Tree where
  places := insert place tree.places
  file? := Function.update tree.file? place (some content)
  mem_places other := by
    by_cases h : other = place
    · simp [h]
    · simp [h, tree.mem_places]
  root_notMem := by simp [hplace.symm, tree.root_notMem]

/-- Take away a place and everything below it. -/
def prune (tree : Tree) (place : Place) : Tree where
  places := tree.places.filter fun key => ¬ place <+: key
  file? key := if place <+: key then none else tree.file? key
  mem_places key := by
    by_cases h : place <+: key
    · simp [h]
    · simp [h, tree.mem_places]
  root_notMem h := tree.root_notMem (Finset.mem_filter.1 h).1

/-- The places one step below a place where a file is or that lead to one. -/
def children (tree : Tree) (place : Place) : Finset Place :=
  (tree.places.biUnion fun key => key.inits.toFinset).filter fun child =>
    child ≠ [] ∧ child.dropLast = place

/-- The content of a file. -/
def get (tree : Tree) (path : String) : Except Fault Bytes :=
  answerAt path fun place =>
    match tree.file? place with
    | some content => .ok content
    | none => .error (.pathNotFound path)

/-- Write a file. The root is no file. -/
def put (tree : Tree) (path : String) (content : Bytes) : Except Fault Tree :=
  answerAt path fun place =>
    if h : place = [] then .error (.invalidPath path) else .ok (tree.write place h content)

/-- What is known about a path: a file where one is, else a directory where one is below. -/
def stat (tree : Tree) (path : String) : Except Fault FileInfo :=
  answerAt path fun place =>
    match tree.file? place with
    | some content => .ok ⟨path, content.length, false⟩
    | none =>
      if ∃ key ∈ tree.places, place <+: key ∧ place ≠ key then .ok ⟨path, 0, true⟩
      else .error (.pathNotFound path)

/-- The children of a directory, ascending by their paths. Only the root may have none. -/
def list (tree : Tree) (path : String) : Except Fault (List String) :=
  answerAt path fun place =>
    if tree.children place = ∅ ∧ place ≠ [] then .error (.pathNotFound path)
    else .ok (((tree.children place).image Place.path).sort (· ≤ ·))

/-- Take away a path and everything below it; something must be there. -/
def delete (tree : Tree) (path : String) : Except Fault Tree :=
  answerAt path fun place =>
    if ∃ key ∈ tree.places, place <+: key then .ok (tree.prune place)
    else .error (.pathNotFound path)

/-- A tree of files as a backend. -/
def backend : Backend Tree where
  name := Files.backend.name
  get := get
  put := put
  stat := stat
  list := list
  delete := delete
  putEvents := Files.backend.putEvents

/-- The children of a place are its extensions by one step that files are at or below. -/
theorem mem_children_iff {tree : Tree} {place child : Place} :
    child ∈ tree.children place ↔
      ∃ c, child = place ++ [c] ∧ ∃ key ∈ tree.places, child <+: key := by
  simp only [children, Finset.mem_filter, Finset.mem_biUnion, List.mem_toFinset, List.mem_inits]
  constructor
  · rintro ⟨hkey, hne, rfl⟩
    exact ⟨child.getLast hne, (List.dropLast_append_getLast hne).symm, hkey⟩
  · rintro ⟨c, rfl, hkey⟩
    exact ⟨hkey, by simp, by simp⟩

end Tree

/-! ### Storage in memory stands for a tree -/

/-- A request for the path of a place is answered for that place. -/
@[simp]
theorem answerAt_path {α : Type} (place : Place) (answer : Place → Except Fault α) :
    answerAt place.path answer = answer place := by
  rw [answerAt, place?_path]

/-- An answer after the check of the path is an answer about its place. -/
theorem checkPath_bind {α : Type} {path : String} {result : Except Fault α}
    {answer : Place → Except Fault α} (h : ∀ place, place.path = path → result = answer place) :
    (do checkPath path; result) = answerAt path answer := by
  cases hplace : place? path with
  | none =>
    have hpath : ¬ isPath path = true := by
      intro hpath
      obtain ⟨place, rfl⟩ := isPath_iff.1 hpath
      rw [place?_path] at hplace
      cases hplace
    rw [answerAt, hplace, checkPath, if_neg hpath]
    rfl
  | some place =>
    obtain rfl := place?_eq_some_iff.1 hplace
    rw [answerAt_path, checkPath, if_pos (isPath_iff.2 ⟨place, rfl⟩)]
    exact h place rfl

/-- Files stand for a tree: under a path lies what the tree has at its place, and under other
texts nothing. -/
def Represents (files : Files) (tree : Tree) : Prop :=
  ∀ path, files.contents[path]? = (place? path).bind tree.file?

/-- The empty storage represents the empty tree. -/
theorem represents_empty : Represents Files.empty Tree.empty := by
  intro path
  simp [Files.empty, Tree.empty]

namespace Represents

variable {files : Files} {tree : Tree}

/-- The content under the path of a place is that of the place. -/
theorem getElem?_path (h : Represents files tree) (place : Place) :
    files.contents[place.path]? = tree.file? place := by
  rw [h, place?_path, Option.bind_some]

/-- The paths that are stored are those of the places of the tree. -/
theorem mem_paths_iff (h : Represents files tree) {path : String} :
    path ∈ files.paths ↔ ∃ place ∈ tree.places, place.path = path := by
  rw [Files.paths, Std.ExtTreeMap.mem_keys, Std.ExtTreeMap.mem_iff_isSome_getElem?, h]
  constructor
  · intro hsome
    cases hplace : place? path with
    | none => simp [hplace] at hsome
    | some place =>
      rw [hplace, Option.bind_some] at hsome
      exact ⟨place, (tree.mem_places place).2 hsome, place?_eq_some_iff.1 hplace⟩
  · rintro ⟨place, hplace, rfl⟩
    simpa using (tree.mem_places place).1 hplace

/-- The places of files below a place, as storage in memory finds them. -/
theorem isBelow_path_iff {key place : Place} (hkey : key ∈ tree.places) :
    Files.isBelow place.path key.path = true ↔ place <+: key ∧ place ≠ key := by
  have hroot : key ≠ [] := fun hnil => tree.root_notMem (hnil ▸ hkey)
  rw [Files.isBelow, Place.startsWith_path_iff hroot]
  constructor
  · rintro ⟨c, rest, rfl⟩
    exact ⟨List.prefix_append _ _, by simp⟩
  · rintro ⟨⟨rest, rfl⟩, hne⟩
    cases rest with
    | nil => simp at hne
    | cons c rest => exact ⟨c, rest, rfl⟩

/-- Reading a file answers the same of the files and of the tree. -/
theorem get (h : Represents files tree) (path : String) : files.get path = tree.get path := by
  refine checkPath_bind fun place hplace => ?_
  subst hplace
  cases hfile : tree.file? place with
  | none => simp only [h.getElem?_path, hfile]
  | some content => simp only [h.getElem?_path, hfile]

/-- Asking for a path answers the same of the files and of the tree. -/
theorem stat (h : Represents files tree) (path : String) : files.stat path = tree.stat path := by
  refine checkPath_bind fun place hplace => ?_
  subst hplace
  -- a directory is what has a file below it
  have hbelow : files.paths.any (Files.isBelow place.path) = true ↔
      ∃ key ∈ tree.places, place <+: key ∧ place ≠ key := by
    rw [List.any_eq_true]
    constructor
    · rintro ⟨path, hpath, hbelow⟩
      obtain ⟨key, hkey, rfl⟩ := h.mem_paths_iff.1 hpath
      exact ⟨key, hkey, (isBelow_path_iff hkey).1 hbelow⟩
    · rintro ⟨key, hkey, hbelow⟩
      exact ⟨key.path, h.mem_paths_iff.2 ⟨key, hkey, rfl⟩, (isBelow_path_iff hkey).2 hbelow⟩
  cases hfile : tree.file? place with
  | none => simp only [h.getElem?_path, hfile, hbelow]
  | some content => simp only [h.getElem?_path, hfile]

/-- On the way to a place further down, the next child is the one that the place goes through. -/
theorem childToward?_append_cons (place : Place) (c : Component) (rest : Place) :
    Files.childToward? place.path (Place.path (place ++ c :: rest)) =
      some (Place.path (place ++ [c])) := by
  rw [Files.childToward?, Place.path_append_cons, Text.strip?_append, Option.map_some,
    Place.takeWhile_intercalate_texts, String.ofList_toList, Place.path_append_cons]
  rfl

/-- The child that storage in memory reads off the path of a file is one step below the directory,
and the file is at it or below it. -/
theorem childToward?_path_iff {place key : Place} (hkey : key ∈ tree.places) {child : String} :
    Files.childToward? place.path key.path = some child ↔
      ∃ c, place ++ [c] <+: key ∧ Place.path (place ++ [c]) = child := by
  constructor
  · intro h
    obtain ⟨stripped, hstripped, -⟩ := Option.map_eq_some_iff.1 h
    -- there is a child only below the directory
    have hstarts : Files.isBelow place.path key.path = true := by
      by_contra hnot
      rw [Text.strip?_eq_none_iff.2 (Bool.eq_false_of_not_eq_true hnot)] at hstripped
      cases hstripped
    have hroot : key ≠ [] := fun hnil => tree.root_notMem (hnil ▸ hkey)
    obtain ⟨c, rest, rfl⟩ := (Place.startsWith_path_iff hroot).1 hstarts
    rw [childToward?_append_cons, Option.some.injEq] at h
    exact ⟨c, by simp, h⟩
  · rintro ⟨c, ⟨rest, rfl⟩, rfl⟩
    rw [List.append_assoc]
    exact childToward?_append_cons place c rest

/-- Listing a directory answers the same of the files and of the tree. -/
theorem list (h : Represents files tree) (path : String) : files.list path = tree.list path := by
  refine checkPath_bind fun place hplace => ?_
  subst hplace
  let found : Std.ExtTreeSet String :=
    .ofList (files.paths.filterMap (Files.childToward? place.path))
  let children := (tree.children place).image Place.path
  have hmem : ∀ child, child ∈ found ↔ child ∈ children := by
    intro child
    rw [Std.ExtTreeSet.mem_ofList, List.contains_iff_mem, List.mem_filterMap, Finset.mem_image]
    constructor
    · rintro ⟨path, hpath, hchild⟩
      obtain ⟨key, hkey, rfl⟩ := h.mem_paths_iff.1 hpath
      obtain ⟨c, hleads, rfl⟩ := (childToward?_path_iff hkey).1 hchild
      exact ⟨_, Tree.mem_children_iff.2 ⟨c, rfl, key, hkey, hleads⟩, rfl⟩
    · rintro ⟨child, hchild, rfl⟩
      obtain ⟨c, rfl, key, hkey, hleads⟩ := Tree.mem_children_iff.1 hchild
      exact ⟨key.path, h.mem_paths_iff.2 ⟨key, hkey, rfl⟩,
        (childToward?_path_iff hkey).2 ⟨c, hleads, rfl⟩⟩
  have hempty : found.isEmpty = true ↔ tree.children place = ∅ := by
    have hchildren : tree.children place = ∅ ↔ ∀ child, child ∉ children := by
      rw [← Finset.eq_empty_iff_forall_notMem, Finset.image_eq_empty]
    rw [Std.ExtTreeSet.isEmpty_iff, Std.ExtTreeSet.eq_empty_iff_forall_not_mem, hchildren]
    exact forall_congr' fun child => not_congr (hmem child)
  -- both lists ascend and have the same members
  have hsorted : found.toList = children.sort (· ≤ ·) := by
    have hascending : found.toList.SortedLT := by
      refine List.Pairwise.sortedLT (found.ordered_toList.imp ?_)
      intro a b hab
      exact compare_lt_iff_lt.1 hab
    refine hascending.eq_of_mem_iff (Finset.sortedLT_sort _) fun child => ?_
    rw [Std.ExtTreeSet.mem_toList, Finset.mem_sort, hmem]
  change (if found.isEmpty ∧ place.path ≠ "/" then Except.error (Fault.pathNotFound place.path)
    else Except.ok found.toList) = _
  rw [hsorted]
  exact if_congr (and_congr hempty (not_congr Place.path_eq_root_iff)) rfl rfl

/-- Changes that are done or refused alike: both are refused for one reason, or what they leave is
files and a tree that the files stand for. -/
def Alike : Except Fault Files → Except Fault Tree → Prop
  | .ok files, .ok tree => Represents files tree
  | .error fault, .error fault' => fault = fault'
  | _, _ => False

/-- Changes after the check of the path are alike when they are at its place. -/
theorem alike_answerAt {path : String} {result : Except Fault Files}
    {answer : Place → Except Fault Tree}
    (h : ∀ place, place.path = path → Alike result (answer place)) :
    Alike (do checkPath path; result) (answerAt path answer) := by
  cases hplace : place? path with
  | none =>
    have hrefused := @checkPath_bind _ path result (fun _ => result) fun _ _ => rfl
    rw [hrefused, answerAt, answerAt, hplace]
    rfl
  | some place =>
    obtain rfl := place?_eq_some_iff.1 hplace
    rw [@checkPath_bind _ _ result (fun _ => result) fun _ _ => rfl, answerAt_path, answerAt_path]
    exact h place rfl

/-- Writing a file answers the same, and the files represent the tree again. -/
theorem put (h : Represents files tree) (path : String) (content : Bytes) :
    Alike (files.put path content) (tree.put path content) := by
  refine alike_answerAt fun place hplace => ?_
  subst hplace
  by_cases hroot : place = []
  · rw [if_pos (Place.path_eq_root_iff.2 hroot), dif_pos hroot]
    rfl
  rw [if_neg fun heq => hroot (Place.path_eq_root_iff.1 heq), dif_neg hroot]
  intro path
  change (files.contents.insert place.path content)[path]? = _
  by_cases hpath : place.path = path
  · subst hpath
    simp [Tree.write]
  · -- another path stands for another place, which the write leaves alone
    have hother : ¬ compare place.path path = .eq := fun heq => hpath (compare_eq_iff_eq.1 heq)
    rw [Std.ExtTreeMap.getElem?_insert, if_neg hother, h path]
    cases hplace : place? path with
    | none => rfl
    | some other =>
      have hne : other ≠ place := by
        rintro rfl
        exact hpath (place?_eq_some_iff.1 hplace)
      exact (Function.update_of_ne hne _ _).symm

/-- Deleting answers the same, and the files represent the tree again. -/
theorem delete (h : Represents files tree) (path : String) :
    Alike (files.delete path) (tree.delete path) := by
  refine alike_answerAt fun place hplace => ?_
  subst hplace
  let goes (stored : String) : Bool := stored == place.path || Files.isBelow place.path stored
  -- what goes is the file at the place and all files below it
  have hgoes : ∀ key ∈ tree.places, goes key.path = true ↔ place <+: key := by
    intro key hkey
    rw [Bool.or_eq_true, beq_iff_eq, isBelow_path_iff hkey]
    constructor
    · rintro (heq | ⟨hleads, -⟩)
      · exact Place.path_injective heq ▸ List.prefix_refl _
      · exact hleads
    · intro hleads
      by_cases heq : place = key
      · exact .inl (heq ▸ rfl)
      · exact .inr ⟨hleads, heq⟩
  have hany : files.paths.any goes = true ↔ ∃ key ∈ tree.places, place <+: key := by
    rw [List.any_eq_true]
    constructor
    · rintro ⟨path, hpath, hpathgoes⟩
      obtain ⟨key, hkey, rfl⟩ := h.mem_paths_iff.1 hpath
      exact ⟨key, hkey, (hgoes key hkey).1 hpathgoes⟩
    · rintro ⟨key, hkey, hleads⟩
      exact ⟨key.path, h.mem_paths_iff.2 ⟨key, hkey, rfl⟩, (hgoes key hkey).2 hleads⟩
  by_cases hsome : ∃ key ∈ tree.places, place <+: key
  · rw [if_pos (hany.2 hsome), if_pos hsome]
    intro path
    change (files.contents.filter _)[path]? = _
    have hstays : (fun _ : Bytes => path != place.path && !Files.isBelow place.path path) =
        fun _ => !goes path := by
      funext
      simp [goes, Bool.not_or, bne]
    simp only [Std.ExtTreeMap.getElem?_filter, Std.ExtTreeMap.getKey_eq, Option.pfilter_eq_filter,
      hstays, h path]
    cases hplace : place? path with
    | none => rfl
    | some key =>
      obtain rfl := place?_eq_some_iff.1 hplace
      cases hfile : tree.file? key with
      | none => simp [Tree.prune, hfile]
      | some content =>
        have hkey : key ∈ tree.places := (tree.mem_places key).2 (by simp [hfile])
        by_cases hleads : place <+: key
        · simp [Tree.prune, hfile, hleads, (hgoes key hkey).2 hleads]
        · have hkeeps : goes key.path = false :=
            Bool.eq_false_of_not_eq_true fun hyes => hleads ((hgoes key hkey).1 hyes)
          simp [Tree.prune, hfile, hleads, hkeeps]
  · rw [if_neg fun hyes => hsome (hany.1 hyes), if_neg hsome]
    rfl

/-- A change that is alike for files and tree is answered alike and leaves them representing. -/
theorem change (h : Represents files tree) {result : Except Fault Files}
    {result' : Except Fault Tree} (halike : Alike result result') :
    (Backend.change files result).1 = (Backend.change tree result').1 ∧
      Represents (Backend.change files result).2 (Backend.change tree result').2 := by
  cases result with
  | ok files' =>
    cases result' with
    | ok tree' => exact ⟨rfl, halike⟩
    | error fault => exact absurd halike id
  | error fault =>
    cases result' with
    | ok tree' => exact absurd halike id
    | error fault' =>
      obtain rfl : fault = fault' := halike
      exact ⟨rfl, h⟩

/-- A request is answered alike, and leaves files that stand for the tree it leaves. -/
theorem perform (h : Represents files tree) (request : Request) :
    (Files.backend.perform files request).1 = (Tree.backend.perform tree request).1 ∧
      Represents (Files.backend.perform files request).2
        (Tree.backend.perform tree request).2 := by
  cases request with
  | put path content => exact h.change (h.put path content)
  | get path => exact ⟨congrArg Reply.content (h.get path), h⟩
  | stat path => exact ⟨congrArg Reply.info (h.stat path), h⟩
  | list path => exact ⟨congrArg Reply.children (h.list path), h⟩
  | delete path => exact h.change (h.delete path)

/-- Requests are answered alike, one after the other. -/
theorem replies (h : Represents files tree) (requests : List Request) :
    Files.backend.replies files requests = Tree.backend.replies tree requests ∧
      Represents (Files.backend.after files requests) (Tree.backend.after tree requests) := by
  induction requests generalizing files tree with
  | nil => exact ⟨rfl, h⟩
  | cons request requests ih =>
    obtain ⟨hreply, hleft⟩ := h.perform request
    obtain ⟨hreplies, hafter⟩ := ih hleft
    refine ⟨?_, hafter⟩
    rw [Backend.replies, Backend.replies, hreply, hreplies]

end Represents

/-! ### What a file holds -/

/-- Whether a request is about the file at a place: it writes it, or removes it or a directory
above it. -/
def Request.Touches (place : Place) : Request → Prop
  | .put path _ => path = place.path
  | .delete path => ∃ above : Place, above <+: place ∧ path = above.path
  | .get _ | .stat _ | .list _ => False

namespace Tree

/-- The root is no file. -/
theorem file?_root (tree : Tree) : tree.file? [] = none := by
  have h := tree.root_notMem
  rw [tree.mem_places] at h
  simpa using h

/-- A write changes the file at its place, and no other. -/
theorem file?_put (tree : Tree) (path : String) (written : Bytes) (place : Place) :
    (Backend.change tree (tree.put path written)).2.file? place =
      if place? path = some place ∧ place ≠ [] then some written else tree.file? place := by
  rw [put, answerAt]
  cases place? path with
  | none => simp [Backend.change]
  | some other =>
    by_cases hroot : other = []
    · simp [Backend.change, hroot]
    · by_cases hplace : place = other
      · simp [Backend.change, write, hroot, hplace]
      · simp [Backend.change, write, hroot, hplace, Ne.symm hplace]

/-- A removal takes away the files at its place and below, and no other. -/
theorem file?_delete (tree : Tree) (path : String) (place : Place) :
    (Backend.change tree (tree.delete path)).2.file? place =
      if ∃ above ∈ place? path, above <+: place then none else tree.file? place := by
  rw [delete, answerAt]
  cases place? path with
  | none => simp [Backend.change]
  | some above =>
    by_cases hsome : ∃ key ∈ tree.places, above <+: key
    · simp only [if_pos hsome, Backend.change, prune, Option.mem_some_iff, exists_eq_left']
    · -- nothing is at the place or below it, so there is nothing to take away
      have hnone : above <+: place → tree.file? place = none := by
        intro hleads
        have hplace : place ∉ tree.places := fun hmem => hsome ⟨place, hmem, hleads⟩
        rw [tree.mem_places] at hplace
        simpa using hplace
      simp only [if_neg hsome, Backend.change, Option.mem_some_iff, exists_eq_left']
      split
      · next hleads => exact hnone hleads
      · rfl

/-- A file holds what a request has written there, or what it held before when the request is about
other files. -/
theorem file?_perform_iff (tree : Tree) (request : Request) (place : Place) (content : Bytes) :
    (backend.perform tree request).2.file? place = some content ↔
      (place ≠ [] ∧ request = .put place.path content) ∨
        (tree.file? place = some content ∧ ¬ request.Touches place) := by
  cases request with
  | get path => simp [Backend.perform, Request.Touches]
  | stat path => simp [Backend.perform, Request.Touches]
  | list path => simp [Backend.perform, Request.Touches]
  | put path written =>
    -- the text that is written to names this place or none
    have hsame : path = place.path ↔ place? path = some place :=
      eq_comm.trans place?_eq_some_iff.symm
    refine (iff_of_eq (congrArg (· = some content) (file?_put tree path written place))).trans ?_
    simp only [Request.Touches, Request.put.injEq, hsame]
    by_cases hplace : place = []
    · subst hplace
      simp [file?_root]
    · by_cases hwritten : place? path = some place
      · simp [hplace, hwritten]
      · simp [hplace, hwritten]
  | delete path =>
    -- the text that is deleted names a place above this one or none
    have habove : (∃ above : Place, above <+: place ∧ path = above.path) ↔
        ∃ above ∈ place? path, above <+: place := by
      refine exists_congr fun above => ?_
      rw [Option.mem_def, place?_eq_some_iff, and_comm, eq_comm]
    refine (iff_of_eq (congrArg (· = some content) (file?_delete tree path place))).trans ?_
    simp only [Request.Touches, habove]
    split
    · next hgone =>
      exact iff_of_false nofun fun h => h.elim (fun hput => nomatch hput.2) fun hkept =>
        hkept.2 hgone
    · next hkept =>
      exact ⟨fun hfile => .inr ⟨hfile, hkept⟩, fun h => h.elim (fun hput => nomatch hput.2)
        And.left⟩

/-- A file holds the content that was written last, if it was not removed since. -/
theorem file?_after_iff (requests : List Request) (place : Place) (content : Bytes) :
    (backend.after empty requests).file? place = some content ↔
      place ≠ [] ∧ ∃ before later, requests = before ++ .put place.path content :: later ∧
        ∀ request ∈ later, ¬ request.Touches place := by
  induction requests using List.reverseRecOn with
  | nil => simp [empty]
  | append_singleton requests request ih =>
    rw [Backend.after_concat, file?_perform_iff, ih]
    constructor
    · rintro (⟨hplace, rfl⟩ | ⟨⟨hplace, before, later, rfl, hlater⟩, hrequest⟩)
      · exact ⟨hplace, requests, [], rfl, by simp⟩
      · refine ⟨hplace, before, later ++ [request], by simp, ?_⟩
        exact List.forall_mem_append.2 ⟨hlater, List.forall_mem_singleton.2 hrequest⟩
    · rintro ⟨hplace, before, later, hsplit, hlater⟩
      -- the write is the last request, or one of those before it
      cases later using List.reverseRecOn with
      | nil =>
        obtain ⟨-, hrequest⟩ := List.append_inj' hsplit rfl
        exact .inl ⟨hplace, (List.cons.inj hrequest).1⟩
      | append_singleton later last =>
        rw [← List.cons_append, ← List.append_assoc] at hsplit
        obtain ⟨hrequests, hrequest⟩ := List.append_inj' hsplit rfl
        obtain ⟨hbefore, hlast⟩ := List.forall_mem_append.1 hlater
        obtain rfl : request = last := (List.cons.inj hrequest).1
        exact .inr ⟨⟨hplace, before, later, hrequests, hbefore⟩,
          hlast request List.mem_cons_self⟩

end Tree

/-! ### Every run -/

/-- The paths that are accepted are those of places. -/
theorem checkPath_eq_ok_iff {path : String} :
    checkPath path = .ok () ↔ ∃ place : Place, place.path = path := by
  rw [← isPath_iff, checkPath]
  split
  · next hpath => simp [hpath]
  · next hpath => simp [hpath]

/-- A file is read when its path is that of a place where a file is. -/
theorem Tree.get_eq_ok_iff {tree : Tree} {path : String} {content : Bytes} :
    tree.get path = .ok content ↔
      ∃ place, Place.path place = path ∧ tree.file? place = some content := by
  simp only [← place?_eq_some_iff]
  rw [Tree.get, answerAt]
  cases place? path with
  | none => simp
  | some place => cases hfile : tree.file? place <;> simp [hfile]

/-- What a directory is listed as: its children, each of which is a file or leads to one. -/
theorem Tree.list_eq_ok {tree : Tree} {place : Place} {children : List String}
    (h : tree.list place.path = .ok children) :
    children.Pairwise (· < ·) ∧
      ∀ child, child ∈ children ↔
        ∃ c, Place.path (place ++ [c]) = child ∧ ∃ key ∈ tree.places, place ++ [c] <+: key := by
  rw [Tree.list, answerAt_path] at h
  split at h
  · cases h
  · obtain rfl := Except.ok.inj h
    refine ⟨(Finset.sortedLT_sort _).pairwise, fun child => ?_⟩
    rw [Finset.mem_sort, Finset.mem_image]
    constructor
    · rintro ⟨child, hchild, rfl⟩
      obtain ⟨c, rfl, hkey⟩ := Tree.mem_children_iff.1 hchild
      exact ⟨c, rfl, hkey⟩
    · rintro ⟨c, rfl, hkey⟩
      exact ⟨_, Tree.mem_children_iff.2 ⟨c, rfl, hkey⟩, rfl⟩

/-- The accepted texts are the paths of places, one for each. Every run on storage in memory gets
the replies of the run on the tree, and leaves its files. A file can be read when it was written
and since then neither written again nor removed, and what is listed are the children of a
directory in the tree, ascending. -/
theorem Files.refines_tree :
    (∀ path, checkPath path = .ok () ↔ ∃ place : Place, place.path = path) ∧
    (∀ place place' : Place, place.path = place'.path → place = place') ∧
    ∀ requests : List Request,
      let files := Files.backend.after Files.empty requests
      let tree := Tree.backend.after Tree.empty requests
      Files.backend.replies Files.empty requests = Tree.backend.replies Tree.empty requests ∧
      (∀ path content, files.contents[path]? = some content ↔
        ∃ place, Place.path place = path ∧ tree.file? place = some content) ∧
      (∀ path content, files.get path = .ok content ↔
        ∃ place : Place, place ≠ [] ∧ place.path = path ∧
          ∃ before later, requests = before ++ .put path content :: later ∧
            ∀ request ∈ later, ¬ request.Touches place) ∧
      ∀ (place : Place) (children : List String), files.list place.path = .ok children →
        children.Pairwise (· < ·) ∧
        ∀ child, child ∈ children ↔
          ∃ c, Place.path (place ++ [c]) = child ∧
            ∃ key ∈ tree.places, place ++ [c] <+: key := by
  refine ⟨fun _ => checkPath_eq_ok_iff, fun _ _ => Place.path_injective, fun requests => ?_⟩
  intro files tree
  obtain ⟨hreplies, hafter⟩ := represents_empty.replies requests
  -- the files are those of the tree, and the rest is said of the tree
  have hfile : ∀ path content, files.contents[path]? = some content ↔
      ∃ place, Place.path place = path ∧ tree.file? place = some content := by
    intro path content
    rw [hafter path, Option.bind_eq_some_iff]
    exact exists_congr fun place => and_congr place?_eq_some_iff Iff.rfl
  refine ⟨hreplies, hfile, fun path content => ?_, fun place children h => ?_⟩
  · rw [hafter.get, Tree.get_eq_ok_iff]
    refine exists_congr fun place => ?_
    rw [Tree.file?_after_iff]
    constructor
    · rintro ⟨rfl, hplace, hwritten⟩
      exact ⟨hplace, rfl, hwritten⟩
    · rintro ⟨hplace, rfl, hwritten⟩
      exact ⟨rfl, hplace, hwritten⟩
  · rw [hafter.list] at h
    exact Tree.list_eq_ok h

-- a sibling whose name begins alike is not below, and a path can be a file and a directory
example :
    Files.backend.replies Files.empty
        [.put "/ab" [1], .stat "/a", .put "/ab/c" [2, 3], .stat "/ab", .list "/ab"] =
      [.changed (.ok ()), .info (.error (.pathNotFound "/a")), .changed (.ok ()),
        .info (.ok ⟨"/ab", 1, false⟩), .children (.ok ["/ab/c"])] := by
  decide +kernel

end RegistryBench.Storage
