import RegistryBench.Storage.Path

/-!
# Paths as places

A path says where something lies in a tree: a place is the list of names to go down from the root,
and its path is these names, each after a slash. Every text that is accepted as a path is the path
of exactly one place.

## Main results

- `isPath_iff`: the accepted texts are the paths of places.
- `Place.path_injective`: different places have different paths.
- `place?_eq_some_iff`: the place of a path can be computed.
- `Place.startsWith_path_iff`: a place lies below another exactly when its path begins with the
  directory prefix of the other.
-/

namespace RegistryBench.Storage

open Text

/-- Whether a text can be one step of a path. -/
def IsName (text : String) : Prop :=
  text ≠ "" ∧ '/' ∉ text.toList ∧ text ≠ "." ∧ text ≠ ".."

/-- Whether a text can be a step is decidable. -/
instance decidableIsName (text : String) : Decidable (IsName text) :=
  inferInstanceAs (Decidable (_ ∧ _))

/-- One step of a path: a name without a slash that is neither empty nor `.` nor `..`. -/
structure Component where
  /-- The name. -/
  text : String
  /-- The name can be a step. -/
  isName : IsName text
deriving DecidableEq

/-- A component is its text: that it is a name adds nothing. -/
theorem Component.ext_text {c d : Component} (h : c.text = d.text) : c = d := by
  cases c
  cases d
  exact Component.mk.injEq .. ▸ h

/-- A place in a tree: the steps to it from the root. -/
abbrev Place := List Component

namespace Place

/-- The names of the steps. -/
def texts (place : Place) : List String := place.map Component.text

/-- The path of a place: `/` for the root, else its names, each after a slash. -/
def path (place : Place) : String := "/" ++ "/".intercalate place.texts

/-- What stands before the slash of a child: the path, or nothing for the root. -/
def stem (place : Place) : String := "/".intercalate ("" :: place.texts)

@[simp]
theorem texts_nil : texts [] = [] := rfl

@[simp]
theorem texts_cons (c : Component) (place : Place) : texts (c :: place) = c.text :: texts place :=
  rfl

@[simp]
theorem texts_append (place rest : Place) : texts (place ++ rest) = texts place ++ texts rest :=
  List.map_append

/-- A place is known by the texts of its components. -/
theorem texts_injective {place place' : Place} (h : place.texts = place'.texts) :
    place = place' :=
  List.map_inj_right (fun _ _ => Component.ext_text) |>.1 h

/-- The texts of a place are names. -/
theorem isName_of_mem_texts {place : Place} {text : String} (h : text ∈ place.texts) :
    IsName text := by
  obtain ⟨c, -, rfl⟩ := List.mem_map.1 h
  exact c.isName

@[simp]
theorem path_nil : path [] = "/" := rfl

/-- A place below the root has its stem as its path. -/
theorem path_of_ne_nil {place : Place} (h : place ≠ []) : place.path = place.stem := by
  have htexts : place.texts ≠ [] := fun hnil => h (List.map_eq_nil_iff.1 hnil)
  rw [path, stem, String.intercalate_cons_of_ne_nil htexts]
  simp

/-- Splitting a stem at the slashes gives the names of the place back, behind nothing. -/
theorem split_stem (place : Place) : split '/' place.stem = "" :: place.texts := by
  refine split_intercalate (fun piece hpiece => ?_) (List.cons_ne_nil _ _)
  obtain rfl | hpiece := List.mem_cons.1 hpiece
  · exact List.not_mem_nil
  · exact (isName_of_mem_texts hpiece).2.1

/-- A place is known by its stem. -/
theorem stem_injective {place place' : Place} (h : place.stem = place'.stem) :
    place = place' := by
  have hsplit : "" :: place.texts = "" :: place'.texts := by
    rw [← split_stem, ← split_stem, h]
  exact texts_injective (List.cons.inj hsplit).2

/-- The stem of a place below another one continues the stem of that one. -/
theorem stem_append_cons (place : Place) (c : Component) (rest : Place) :
    stem (place ++ c :: rest) = place.stem ++ "/" ++ "/".intercalate (texts (c :: rest)) := by
  have happend : "" :: texts (place ++ c :: rest) = ("" :: place.texts) ++ texts (c :: rest) := by
    rw [texts_append, List.cons_append]
  have hrest : texts (c :: rest) ≠ [] := List.cons_ne_nil _ _
  rw [stem, happend, String.intercalate_append_of_ne_nil (List.cons_ne_nil _ _) hrest, stem]

/-- No stem is the path of the root, which is why the root is a case of its own. -/
theorem stem_ne_root (place : Place) : place.stem ≠ "/" := by
  intro h
  have hsplit := place.split_stem
  rw [h, show split '/' "/" = ["", ""] by decide] at hsplit
  have hempty : "" ∈ place.texts := (List.cons.inj hsplit).2 ▸ List.mem_cons_self
  exact (isName_of_mem_texts hempty).1 rfl

/-- The root alone has the path of the root. -/
@[simp]
theorem path_eq_root_iff {place : Place} : place.path = "/" ↔ place = [] := by
  refine ⟨fun h => Decidable.by_contra fun hne => ?_, fun h => h ▸ rfl⟩
  exact stem_ne_root place (path_of_ne_nil hne ▸ h)

/-- Different places have different paths. -/
theorem path_injective {place place' : Place} (h : place.path = place'.path) :
    place = place' := by
  by_cases hne : place = []
  · subst hne
    exact (path_eq_root_iff.1 h.symm).symm
  · have hne' : place' ≠ [] := fun hnil => hne (path_eq_root_iff.1 (h.trans (hnil ▸ rfl)))
    rw [path_of_ne_nil hne, path_of_ne_nil hne'] at h
    exact stem_injective h

end Place

/-! ### The accepted texts -/

theorem hasDoubleSlash_cons (c : Char) (rest : List Char) :
    hasDoubleSlash (c :: rest) = (c == '/' && rest.head? == some '/' || hasDoubleSlash rest) := by
  by_cases hc : c = '/'
  · subst hc
    cases rest with
    | nil => rfl
    | cons d rest =>
      by_cases hd : d = '/'
      · simp [hd, hasDoubleSlash]
      · simp [hd, hasDoubleSlash]
  · simp [hc, hasDoubleSlash]

/-- The first piece is empty when there is nothing before the first separator. -/
theorem nil_mem_head?_splitOn_iff (l : List Char) :
    [] ∈ (l.splitOn '/').head? ↔ l = [] ∨ l.head? = some '/' := by
  cases l with
  | nil => simp
  | cons c rest =>
    rw [List.splitOn_cons_eq_if_modifyHead]
    by_cases hc : c = '/'
    · simp [hc]
    · simp [hc, List.head?_modifyHead]

/-- A slash at the end and two slashes together both leave an empty piece behind a slash, and
nothing else does. -/
theorem forall_tail_splitOn_ne_nil_iff (l : List Char) :
    (∀ piece ∈ (l.splitOn '/').tail, piece ≠ []) ↔
      hasDoubleSlash l = false ∧ l.getLast? ≠ some '/' := by
  induction l with
  | nil => simp [hasDoubleSlash]
  | cons c rest ih =>
    rw [List.splitOn_cons_eq_if_modifyHead, hasDoubleSlash_cons, List.getLast?_cons]
    by_cases hc : c = '/'
    · subst hc
      -- the first piece of the rest is behind this slash, the others are behind its own slashes
      have hfirst := nil_mem_head?_splitOn_iff rest
      obtain ⟨first, pieces, hrest⟩ := List.exists_cons_of_ne_nil (List.splitOn_ne_nil '/' rest)
      rw [hrest] at ih hfirst
      have hfirst : first = [] ↔ rest = [] ∨ rest.head? = some '/' := by
        simpa [eq_comm] using hfirst
      have hpieces : (∀ piece ∈ pieces, piece ≠ []) ↔
          hasDoubleSlash rest = false ∧ rest.getLast? ≠ some '/' := by simpa using ih
      cases hlast : rest.getLast? with
      | none =>
        obtain rfl := List.getLast?_eq_none_iff.1 hlast
        simp [hrest, hfirst]
      | some d =>
        have hne : rest ≠ [] := by rintro rfl; simp at hlast
        simp only [hlast] at hpieces
        simp [hrest, hfirst, hpieces, hne, and_assoc]
    · cases hlast : rest.getLast? <;> simpa [hc, hlast] using ih

/-- A text other than `/` is accepted exactly when it splits into nothing and then names. -/
theorem isPath_iff_split {path : String} (hroot : path ≠ "/") :
    isPath path = true ↔
      ∃ texts, split '/' path = "" :: texts ∧ texts ≠ [] ∧ ∀ text ∈ texts, IsName text := by
  have hshape := forall_tail_splitOn_ne_nil_iff path.toList
  rw [← map_toList_split] at hshape
  constructor
  · intro h
    obtain ⟨⟨⟨hhead, hlast⟩, hdouble⟩, hdots⟩ :
        ((path.toList.head? = some '/' ∧ path.toList.getLast? ≠ some '/') ∧
          hasDoubleSlash path.toList = false) ∧
          ∀ text ∈ split '/' path, text ≠ "." ∧ text ≠ ".." := by
      simpa [isPath, hroot] using h
    -- the text begins with a slash, so its first piece is empty
    obtain ⟨rest, hrest⟩ := List.head?_eq_some_iff.1 hhead
    have hsplit : split '/' path = "" :: (rest.splitOn '/').map String.ofList := by
      rw [split, splitList_eq_splitOn, hrest, List.splitOn_cons_eq_if_modifyHead]
      simp
    refine ⟨_, hsplit, by simp, fun text htext => ?_⟩
    have hmem : text ∈ split '/' path := hsplit ▸ List.mem_cons_of_mem _ htext
    have hne : text.toList ≠ [] :=
      hshape.2 ⟨hdouble, hlast⟩ _ (by rw [hsplit]; exact List.mem_map_of_mem htext)
    exact ⟨by simpa using hne, not_mem_of_mem_split hmem, hdots text hmem⟩
  · rintro ⟨texts, hsplit, hne, hnames⟩
    have hpath : path = "/" ++ "/".intercalate texts := by
      rw [← intercalate_split '/' path, hsplit]
      exact (String.intercalate_cons_of_ne_nil hne).trans (by simp)
    have hpieces := hshape.1 (by
      rw [hsplit]
      exact List.forall_mem_map.2 fun text htext => by simpa using (hnames text htext).1)
    have hdots : ∀ text ∈ split '/' path, text ≠ "." ∧ text ≠ ".." := by
      rw [hsplit]
      exact List.forall_mem_cons.2 ⟨by decide, fun text htext => (hnames text htext).2.2⟩
    have hhead : path.toList.head? = some '/' := by rw [hpath]; simp
    simpa [isPath, hroot, hhead, hpieces] using hdots

/-- A place other than the root has the path that splits into nothing and then its names. -/
theorem Place.path_eq_iff_split {place : Place} (hne : place ≠ []) {path : String} :
    place.path = path ↔ split '/' path = "" :: place.texts := by
  rw [path_of_ne_nil hne]
  constructor
  · rintro rfl
    exact split_stem place
  · intro hsplit
    rw [stem, ← hsplit]
    exact intercalate_split '/' path

/-- The place of a path, if the text is a path: its pieces, when they are names. -/
def place? (path : String) : Option Place :=
  if path = "/" then some []
  else
    match split '/' path with
    | "" :: texts =>
      if h : texts ≠ [] ∧ ∀ text ∈ texts, IsName text then some (texts.pmap Component.mk h.2)
      else none
    | _ => none

/-- Names make a place that has these names. -/
theorem texts_pmap {texts : List String} (h : ∀ text ∈ texts, IsName text) :
    Place.texts (texts.pmap Component.mk h) = texts := by
  simp [Place.texts, List.map_pmap]

/-- The place of a path is the one that has it. -/
theorem place?_eq_some_iff {path : String} {place : Place} :
    place? path = some place ↔ place.path = path := by
  unfold place?
  split
  · next hroot =>
    rw [hroot, Place.path_eq_root_iff, Option.some.injEq]
    exact eq_comm
  · next hroot =>
    by_cases hne : place = []
    · -- no text but `/` is the path of the root
      subst hne
      refine iff_of_false (fun h => ?_) fun h => hroot h.symm
      split at h
      · split at h
        · next texts _ hnames =>
          exact hnames.1 (List.pmap_eq_nil_iff.1 (Option.some.inj h))
        · cases h
      · cases h
    rw [Place.path_eq_iff_split hne]
    split
    · next texts hsplit =>
      rw [hsplit, List.cons.injEq]
      constructor
      · intro h
        split at h
        · next hnames => exact ⟨rfl, by rw [← Option.some.inj h, texts_pmap hnames.2]⟩
        · cases h
      · rintro ⟨-, rfl⟩
        have hnames : place.texts ≠ [] ∧ ∀ text ∈ place.texts, IsName text :=
          ⟨by simpa [Place.texts] using hne, fun _ => Place.isName_of_mem_texts⟩
        rw [dif_pos hnames]
        exact congrArg some (Place.texts_injective (texts_pmap hnames.2))
    · next hsplit =>
      exact iff_of_false nofun fun h => hsplit _ h

/-- The path of a place leads to that place. -/
@[simp]
theorem place?_path (place : Place) : place? place.path = some place :=
  place?_eq_some_iff.2 rfl

/-- The accepted texts are the paths of places. -/
theorem isPath_iff {path : String} :
    isPath path = true ↔ ∃ place : Place, place.path = path := by
  by_cases hroot : path = "/"
  · subst hroot
    exact ⟨fun _ => ⟨[], rfl⟩, fun _ => rfl⟩
  rw [isPath_iff_split hroot]
  constructor
  · rintro ⟨texts, hsplit, hne, hnames⟩
    refine ⟨texts.pmap Component.mk hnames, ?_⟩
    rw [Place.path_eq_iff_split (fun hnil => hne (List.pmap_eq_nil_iff.1 hnil)), hsplit,
      texts_pmap]
  · rintro ⟨place, rfl⟩
    have hne : place ≠ [] := fun hnil => hroot (hnil ▸ rfl)
    exact ⟨place.texts, (Place.path_eq_iff_split hne).1 rfl, by simpa [Place.texts] using hne,
      fun _ => Place.isName_of_mem_texts⟩

/-! ### Places below a place -/

namespace Place

/-- What all paths below a place begin with. -/
theorem directoryPrefix_path (place : Place) : directoryPrefix place.path = place.stem ++ "/" := by
  by_cases hne : place = []
  · subst hne
    rfl
  · rw [directoryPrefix, if_neg fun hroot => hne (path_eq_root_iff.1 hroot), path_of_ne_nil hne]

/-- The path of a place below another one begins with the directory of that one. -/
theorem path_append_cons (place : Place) (c : Component) (rest : Place) :
    path (place ++ c :: rest) =
      directoryPrefix place.path ++ "/".intercalate (texts (c :: rest)) := by
  rw [path_of_ne_nil (by simp), stem_append_cons, directoryPrefix_path]

/-- A place other than the root lies below another exactly when its path begins with the directory
prefix of the other: whole names are compared, since a name has no slash. -/
theorem startsWith_path_iff {place other : Place} (hother : other ≠ []) :
    startsWith other.path (directoryPrefix place.path) = true ↔
      ∃ c rest, other = place ++ c :: rest := by
  rw [startsWith_iff]
  constructor
  · rintro ⟨rest, hrest⟩
    rw [directoryPrefix_path, path_of_ne_nil hother] at hrest
    -- splitting both sides at slashes turns the common text into common names
    have hsplit : "" :: other.texts = ("" :: place.texts) ++ split '/' rest := by
      rw [← split_stem, ← split_stem, ← split_append, ← hrest]
      rfl
    obtain ⟨first, more, hother, hfirst, hmore⟩ :=
      List.map_eq_append_iff.1 (List.cons.inj hsplit).2
    obtain rfl : first = place := texts_injective hfirst
    -- a split text has one part at least, so the other place goes further down
    cases more with
    | nil => exact absurd hmore.symm (split_ne_nil '/' rest)
    | cons c more => exact ⟨c, more, hother⟩
  · rintro ⟨c, rest, rfl⟩
    exact ⟨_, (path_append_cons place c rest).symm⟩

/-- The first of the names that lead on is what stands before the next slash. -/
theorem takeWhile_intercalate_texts (c : Component) (rest : Place) :
    ("/".intercalate (texts (c :: rest))).toList.takeWhile (· != '/') = c.text.toList := by
  have hc : ∀ a ∈ c.text.toList, (a != '/') = true := by
    intro a ha
    have hne : a ≠ '/' := fun heq => c.isName.2.1 (heq ▸ ha)
    exact bne_iff_ne.2 hne
  cases rest with
  | nil =>
    rw [texts_cons, texts_nil, String.intercalate_singleton]
    have htake := @List.takeWhile_append_of_pos _ _ _ [] hc
    simpa only [List.append_nil, List.takeWhile_nil] using htake
  | cons d rest =>
    have hrest : texts (d :: rest) ≠ [] := List.cons_ne_nil _ _
    rw [texts_cons, String.intercalate_cons_of_ne_nil hrest]
    simp [List.append_assoc, List.takeWhile_append_of_pos hc]

end Place

end RegistryBench.Storage
