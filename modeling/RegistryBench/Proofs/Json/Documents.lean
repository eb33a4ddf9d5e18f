import RegistryBench.Proofs.Json.Codecs
import RegistryBench.Resource.Image

/-!
# Free-form documents are read back

Reading a document sorts the members of its objects and gives its numbers the form they are held
in. A sorted object stays as it is when it is read again, and so does a 64-bit integer. A number of
double precision may change: its shortest numeral need not be read as the same number, so such
numbers are asked to read back themselves.

## Main results

- `Document.stableOn_codec`: a document is read back when its numbers of double precision are.
-/

namespace RegistryBench

namespace Decimal

/-- A number of double precision is read from its own numeral. -/
def ReadsBack (x : Decimal) : Prop :=
  read? x.numeral = some x

instance decidableReadsBack (x : Decimal) : Decidable x.ReadsBack :=
  inferInstanceAs (Decidable (_ = _))

example : ReadsBack ⟨false, 15, -1⟩ := by decide +kernel

-- The digits are rounded, and so is their product with the power of ten.
example : ¬ ReadsBack ⟨false, 10009013445521259, 5⟩ := by decide +kernel

theorem lastDigits_ne_nil (n : Nat) {count : Nat} (h : 0 < count) : lastDigits n count ≠ [] := by
  cases count with
  | zero => exact absurd h (Nat.lt_irrefl 0)
  | succ count => simp [lastDigits]

/-- A numeral of a number of double precision has a fraction or an exponent. -/
theorem toInt?_numeral (x : Decimal) : x.numeral.toInt? = none := by
  simp only [numeral]
  split
  · rfl
  · split
    · rfl
    · next hshort =>
      split
      · next hmiddle =>
        have hplaces : 0 < (-x.exponent).toNat := by omega
        simp [Numeral.toInt?, lastDigits_ne_nil x.digits hplaces]
      · simp [Numeral.toInt?]

end Decimal

namespace Document

mutual

/-- The numbers in a document that are no 64-bit integers. -/
def decimals : Document → List Decimal
  | decimal x => [x]
  | list items => itemDecimals items
  | object members => memberDecimals members
  | _ => []

/-- The numbers in the items of a list that are no 64-bit integers. -/
def itemDecimals : List Document → List Decimal
  | [] => []
  | item :: items => item.decimals ++ itemDecimals items

/-- The numbers in the members of an object that are no 64-bit integers. -/
def memberDecimals : List (String × Document) → List Decimal
  | [] => []
  | (_, value) :: members => value.decimals ++ memberDecimals members

end

/-- The numbers of an item are among those of the list. -/
theorem mem_itemDecimals {items : List Document} {item : Document} (h : item ∈ items)
    {x : Decimal} (hx : x ∈ item.decimals) : x ∈ itemDecimals items := by
  induction items with
  | nil => exact absurd h List.not_mem_nil
  | cons first items ih =>
    rw [itemDecimals]
    obtain rfl | h := List.mem_cons.1 h
    · exact List.mem_append_left _ hx
    · exact List.mem_append_right _ (ih h)

/-- The numbers of a member are among those of the object. -/
theorem mem_memberDecimals {members : List (String × Document)} {member : String × Document}
    (h : member ∈ members) {x : Decimal} (hx : x ∈ member.2.decimals) :
    x ∈ memberDecimals members := by
  induction members with
  | nil => exact absurd h List.not_mem_nil
  | cons first members ih =>
    rw [memberDecimals]
    obtain rfl | h := List.mem_cons.1 h
    · exact List.mem_append_left _ hx
    · exact List.mem_append_right _ (ih h)

theorem itemsToJson_eq_map (items : List Document) : itemsToJson items = items.map toJson := by
  induction items with
  | nil => rfl
  | cons item items ih => rw [itemsToJson, ih, List.map_cons]

theorem membersToJson_eq_map (members : List (String × Document)) :
    membersToJson members = members.map fun member => (some member.1, member.2.toJson) := by
  induction members with
  | nil => rfl
  | cons member members ih => rw [membersToJson, ih, List.map_cons]

/-! ### Sorted members -/

/-- Members that stand in the order of their keys, each key once. -/
def Ascending (members : List (String × Document)) : Prop :=
  members.Pairwise fun a b => compare a.1 b.1 = .lt

/-- Placing a member adds no other one. -/
theorem mem_place {key : String} {value : Document} {members : List (String × Document)}
    {member : String × Document} (h : member ∈ place key value members) :
    member = (key, value) ∨ member ∈ members := by
  induction members with
  | nil => exact .inl (List.mem_singleton.1 h)
  | cons first members ih =>
    obtain ⟨k, v⟩ := first
    rw [place] at h
    split at h
    · exact List.mem_cons.1 h
    · obtain h | h := List.mem_cons.1 h
      · exact .inl h
      · exact .inr (List.mem_cons_of_mem _ h)
    · obtain rfl | h := List.mem_cons.1 h
      · exact .inr List.mem_cons_self
      · exact (ih h).imp_right (List.mem_cons_of_mem _)

/-- Members stay sorted when one is put in its place. -/
theorem Ascending.place {members : List (String × Document)} (h : Ascending members)
    (key : String) (value : Document) : Ascending (place key value members) := by
  induction members with
  | nil => exact List.pairwise_singleton _ _
  | cons first members ih =>
    obtain ⟨k, v⟩ := first
    obtain ⟨hfirst, hmore⟩ := List.pairwise_cons.1 h
    rw [Document.place]
    split
    · next hlt =>
      -- the new member comes first, below the first key and so below all keys
      refine List.pairwise_cons.2 ⟨fun member hmember => ?_, h⟩
      obtain rfl | hmember := List.mem_cons.1 hmember
      · exact hlt
      · exact Std.TransCmp.lt_trans hlt (hfirst member hmember)
    · next heq =>
      obtain rfl : key = k := Std.LawfulEqCmp.eq_of_compare heq
      exact List.pairwise_cons.2 ⟨hfirst, hmore⟩
    · next hgt =>
      -- the new member goes among the others, and its key is still above the first
      refine List.pairwise_cons.2 ⟨fun member hmember => ?_, ih hmore⟩
      obtain rfl | hmember := mem_place hmember
      · exact Std.OrientedCmp.lt_of_gt hgt
      · exact hfirst member hmember

/-- Members that come after all others in a sorted list are placed at its end. -/
theorem place_last {key : String} {members : List (String × Document)}
    (h : ∀ member ∈ members, compare member.1 key = .lt) (value : Document) :
    place key value members = members ++ [(key, value)] := by
  induction members with
  | nil => rfl
  | cons first members ih =>
    obtain ⟨hfirst, hmore⟩ := List.forall_mem_cons.1 h
    have hgt : compare key first.1 = .gt := Std.OrientedCmp.gt_of_lt hfirst
    simp only [place, hgt, ih hmore, List.cons_append]

/-- Members stay sorted when several are put in their places. -/
theorem Ascending.placeAll (members : List (String × Document))
    {placed : List (String × Document)} (h : Ascending placed) :
    Ascending (members.foldl (fun placed (key, value) => Document.place key value placed)
      placed) := by
  induction members generalizing placed with
  | nil => exact h
  | cons member members ih => exact ih (h.place member.1 member.2)

/-- Placing members adds no others. -/
theorem mem_of_mem_placeAll {members placed : List (String × Document)}
    {member : String × Document}
    (h : member ∈ members.foldl (fun placed (key, value) => place key value placed) placed) :
    member ∈ members ∨ member ∈ placed := by
  induction members generalizing placed with
  | nil => exact .inr h
  | cons first members ih =>
    obtain h | h := ih h
    · exact .inl (List.mem_cons_of_mem _ h)
    · obtain rfl | h := mem_place h
      · exact .inl List.mem_cons_self
      · exact .inr h

/-- Members that come in order are placed one behind the other. -/
theorem placeAll_of_ascending {members placed : List (String × Document)}
    (h : Ascending (placed ++ members)) :
    members.foldl (fun placed (key, value) => place key value placed) placed =
      placed ++ members := by
  induction members generalizing placed with
  | nil => exact (List.append_nil placed).symm
  | cons first members ih =>
    have hfirst : ∀ member ∈ placed, compare member.1 first.1 = .lt := fun member hmember =>
      (List.pairwise_append.1 h).2.2 member hmember first List.mem_cons_self
    rw [List.append_cons] at h ⊢
    rw [List.foldl_cons, ← ih h, ← place_last hfirst]

/-- Members are in order once they have been sorted, whatever order they came in. -/
theorem ascending_sorted (members : List (String × Document)) : Ascending (sorted members) :=
  Ascending.placeAll members List.Pairwise.nil

/-- Sorting adds no members. -/
theorem mem_of_mem_sorted {members : List (String × Document)} {member : String × Document}
    (h : member ∈ sorted members) : member ∈ members :=
  (mem_of_mem_placeAll h).resolve_right List.not_mem_nil

/-- Members that are sorted already stay as they are. -/
theorem sorted_of_ascending {members : List (String × Document)} (h : Ascending members) :
    sorted members = members :=
  @placeAll_of_ascending members [] h

/-! ### Reading again -/

/-- A numeral is read as a 64-bit integer or as a number of double precision, and both are read
from their own numerals, the second by assumption. -/
theorem keeps_of_ofNumeral? {n : Numeral} {d : Document} (h : ofNumeral? n = some d)
    (hd : ∀ x ∈ d.decimals, x.ReadsBack) (room : Nat) : codec.Keeps room d := by
  -- an integer out of range and a number with a fraction end in the same way
  have hdecimal : ∀ x, d = decimal x → codec.Keeps room d := by
    rintro x rfl
    have hx : Decimal.read? x.numeral = some x := hd x List.mem_cons_self
    simp only [Codec.Keeps, codec, toJson, read?, ofNumeral?, Decimal.toInt?_numeral, hx,
      Option.map_some]
  rw [ofNumeral?] at h
  split at h
  · next i _ =>
    split at h
    · next hrange =>
      obtain rfl := Option.some.inj h
      simp only [Codec.Keeps, codec, toJson, Json.integer, read?, ofNumeral?,
        Numeral.toInt?_ofInt, if_pos hrange]
    · obtain ⟨x, -, rfl⟩ := Option.map_eq_some_iff.1 h
      exact hdecimal x rfl
  · obtain ⟨x, -, rfl⟩ := Option.map_eq_some_iff.1 h
    exact hdecimal x rfl

/-- A list is kept when its items are, with one more container around them. -/
theorem keeps_list {room : Nat} {items : List Document}
    (h : ∀ item ∈ items, codec.Keeps room item) : codec.Keeps (room + 1) (list items) := by
  have hitems : (items.map toJson).mapM (read? room) = some items := Codec.mapM_map_eq_some h
  simp only [Codec.Keeps, codec, toJson, itemsToJson_eq_map, read?, hitems, Option.map_some]

/-- An object is kept when its members are sorted and their values are kept. -/
theorem keeps_object {room : Nat} {members : List (String × Document)} (hsorted : Ascending members)
    (h : ∀ member ∈ members, codec.Keeps room member.2) :
    codec.Keeps (room + 1) (object members) := by
  have hmembers : (members.map fun member => ((some member.1 : Literal), member.2.toJson)).mapM
      (fun member => do some (← member.1, ← read? room member.2)) = some members := by
    refine Codec.mapM_map_eq_some fun member hmember => ?_
    have hmember : read? room member.2.toJson = some member.2 := h member hmember
    simp only [hmember, Option.bind_eq_bind, Option.bind_some]
  simp only [Codec.Keeps, codec, toJson, membersToJson_eq_map, read?, hmembers, Option.map_some,
    sorted_of_ascending hsorted]

/-- A document that was read is kept, as long as its numbers of double precision are read back. -/
theorem keeps_of_read? {room : Nat} {json : Json} {d : Document} (h : read? room json = some d)
    (hd : ∀ x ∈ d.decimals, x.ReadsBack) : codec.Keeps room d := by
  -- along the reader: what is in a container was read with one container less to nest
  induction room, json using read?.induct generalizing d with
  | case1 room | case2 room b =>
    rw [read?] at h
    obtain rfl := Option.some.inj h
    simp only [Codec.Keeps, codec, toJson, read?]
  | case3 room n =>
    rw [read?] at h
    exact keeps_of_ofNumeral? h hd room
  | case4 room literal =>
    rw [read?] at h
    obtain ⟨s, -, rfl⟩ := Option.map_eq_some_iff.1 h
    simp only [Codec.Keeps, codec, toJson, Json.text, read?, Option.map_some]
  | case5 items | case6 members =>
    rw [read?] at h
    cases h
  | case7 room items ih =>
    rw [read?] at h
    obtain ⟨values, hvalues, rfl⟩ := Option.map_eq_some_iff.1 h
    refine keeps_list fun value hvalue => ?_
    obtain ⟨item, hitem⟩ := Codec.exists_of_mem_mapM hvalues hvalue
    exact ih item hitem fun x hx => hd x (mem_itemDecimals hvalue hx)
  | case8 room members ih =>
    rw [read?] at h
    obtain ⟨values, hvalues, rfl⟩ := Option.map_eq_some_iff.1 h
    refine keeps_object (ascending_sorted values) fun value hvalue => ?_
    obtain ⟨member, hmember⟩ := Codec.exists_of_mem_mapM hvalues (mem_of_mem_sorted hvalue)
    obtain ⟨key, -, hmember⟩ := Option.bind_eq_some_iff.1 hmember
    obtain ⟨d, hread, hmember⟩ := Option.bind_eq_some_iff.1 hmember
    obtain rfl := Option.some.inj hmember
    exact ih member hread fun x hx => hd x (mem_memberDecimals hvalue hx)

/-- A document is read back when its numbers of double precision are. -/
theorem stableOn_codec : codec.StableOn (fun d => ∀ x ∈ d.decimals, x.ReadsBack) 0 :=
  fun _ _ _ _ hread hd => keeps_of_read? hread hd

theorem map_ne_null {α : Type} {make : α → Document} (h : ∀ a, make a ≠ null) (a : Option α) :
    a.map make ≠ some null := by
  intro heq
  obtain ⟨a, -, heq⟩ := Option.map_eq_some_iff.1 heq
  exact h a heq

/-- A numeral is never read as `null`. -/
theorem ofNumeral?_ne_null (n : Numeral) : ofNumeral? n ≠ some null := by
  rw [ofNumeral?]
  split
  · split
    · exact nofun
    · exact map_ne_null nofun _
  · exact map_ne_null nofun _

/-- Only `null` is read as the document that is written as `null`. -/
theorem proper_codec : codec.Proper := by
  intro room json d hread hnull
  -- only `null` is written as `null`
  obtain rfl : d = null := by
    cases d with
    | null => rfl
    | _ => cases hnull
  have hread : read? room json = some null := hread
  induction room, json using read?.induct with
  | case1 room => rfl
  | case2 | case5 | case6 => simp [read?] at hread
  | case3 room n =>
    rw [read?] at hread
    exact absurd hread (ofNumeral?_ne_null n)
  | case4 | case7 | case8 =>
    rw [read?] at hread
    exact absurd hread (map_ne_null nofun _)

end Document

end RegistryBench
