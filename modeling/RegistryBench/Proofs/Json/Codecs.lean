import RegistryBench.Json.Codec
import RegistryBench.Proofs.Json.Layouts

/-!
# Codecs that read back what they write

A codec keeps a value when it reads the value from what it writes for it. It is stable when it
keeps everything it reads: reading may drop unknown keys, fill in what is missing and normalise,
but a second reading changes nothing any more. A record is stable when its fields are, and a field
when leaving it out in writing and its value when it is missing agree.

Reading fills in values that a text lacks, and those may nest deeper than the text did. So
stability asks for some room: as much as the type itself can need.

## Main results

- `Codec.StableOn.list`, `Codec.StableOn.optional`, `Codec.Stable.table`: stability of containers.
- `Field.StableOn.required` and the lemmas after it: stability of each kind of field.
- `Fields.StableOn.codec`: a record is stable when its fields are.
- `Fields.read_codec_write_of_needs`: a record is not read from a text without a needed key.
- `Codec.StableOn.keeps_bytes`: a text of what was read is read as the same value.
-/

namespace RegistryBench

variable {α β : Type}

namespace Codec

/-- A value is read from what is written for it, where at most `room` containers may nest. -/
def Keeps (c : Codec α) (room : Nat) (value : α) : Prop :=
  c.read room (c.write value) = some value

/-- Values with a property are kept once they have been read, where at least `least` containers
may nest. -/
def StableOn (holds : α → Prop) (c : Codec α) (least : Nat) : Prop :=
  ∀ room, least ≤ room → ∀ json value, c.read room json = some value → holds value →
    c.Keeps room value

/-- All values are kept once they have been read. -/
abbrev Stable (c : Codec α) (least : Nat) : Prop :=
  c.StableOn (fun _ => True) least

/-- What is written for a value read from anything but `null` is not `null` either. -/
def Proper (c : Codec α) : Prop :=
  ∀ room json value, c.read room json = some value → c.write value = .null → json = .null

/-- A codec that never writes `null` is proper. -/
theorem proper_of_ne_null {c : Codec α} (h : ∀ value, c.write value ≠ .null) : c.Proper :=
  fun _ _ value _ hnull => absurd hnull (h value)

/-- Stability carries over to fewer values and to more room. -/
theorem StableOn.mono {holds holds' : α → Prop} {c : Codec α} {least least' : Nat}
    (h : c.StableOn holds least) (hholds : ∀ value, holds' value → holds value)
    (hleast : least ≤ least') : c.StableOn holds' least' :=
  fun room hroom json value hread hvalue =>
    h room (Nat.le_trans hleast hroom) json value hread (hholds value hvalue)

/-! ### Plain values -/

theorem keeps_text (room : Nat) (value : String) : text.Keeps room value := rfl

theorem keeps_bool (room : Nat) (value : Bool) : bool.Keeps room value := rfl

/-- An integer is kept when it lies in the range of its type. -/
theorem keeps_integer {least bound value : Int} (h : least ≤ value ∧ value < bound) (room : Nat) :
    (integer least bound).Keeps room value := by
  simp [Keeps, integer, Json.integer, h]

/-- A natural number is kept when it lies below the bound of its type. -/
theorem keeps_natural {bound value : Nat} (h : value < bound) (room : Nat) :
    (natural bound).Keeps room value := by
  simp [Keeps, natural, Json.natural, h]

theorem proper_text : text.Proper :=
  proper_of_ne_null nofun

theorem proper_natural (bound : Nat) : (natural bound).Proper :=
  proper_of_ne_null nofun

theorem stable_text : Stable text 0 :=
  fun room _ _ value _ _ => keeps_text room value

theorem stable_bool : Stable bool 0 :=
  fun room _ _ value _ _ => keeps_bool room value

theorem stable_integer (least bound : Int) : Stable (integer least bound) 0 := by
  intro room _ json value hread _
  cases json with
  | number n =>
    obtain ⟨i, -, hvalue⟩ := Option.bind_eq_some_iff.1 hread
    split at hvalue
    · next hrange =>
      obtain rfl := Option.some.inj hvalue
      exact keeps_integer hrange room
    · cases hvalue
  | _ => cases hread

/-- A natural number that was read lies below the bound of its type. -/
theorem lt_of_read_natural {bound room value : Nat} {json : Json}
    (h : (natural bound).read room json = some value) : value < bound := by
  cases json with
  | number n =>
    obtain ⟨i, -, hvalue⟩ := Option.bind_eq_some_iff.1 h
    split at hvalue
    · next hrange =>
      obtain rfl := Option.some.inj hvalue
      omega
    · cases hvalue
  | _ => cases h

theorem stable_natural (bound : Nat) : Stable (natural bound) 0 :=
  fun room _ _ _ hread _ => keeps_natural (lt_of_read_natural hread) room

/-- An octet is written as the number that it is, and every octet fits. -/
theorem stable_octet : Stable octet 0 := by
  intro room _ json value _ _
  have hkeeps : (natural 256).read room (.natural value.toNat) = some value.toNat :=
    keeps_natural value.toNat_lt room
  simp only [Keeps, octet, hkeeps, Option.map_some, UInt8.ofNat_toNat]

/-! ### Containers -/

/-- The empty list is kept where a list may stand at all. -/
theorem keeps_nil {c : Codec α} {room : Nat} (h : 0 < room) : c.list.Keeps room [] := by
  cases room with
  | zero => exact absurd h (Nat.lt_irrefl 0)
  | succ room => rfl

/-- Values that one function takes back to where another one took them from are all found again. -/
theorem mapM_map_eq_some {f : β → Option α} {g : α → β} {values : List α}
    (h : ∀ value ∈ values, f (g value) = some value) : (values.map g).mapM f = some values := by
  induction values with
  | nil => rfl
  | cons value values ih =>
    obtain ⟨hvalue, hvalues⟩ := List.forall_mem_cons.1 h
    rw [List.map_cons, List.mapM_cons, hvalue, ih hvalues]
    rfl

/-- A list is kept when its values are, with one more container around them. -/
theorem keeps_list {c : Codec α} {room : Nat} {values : List α}
    (h : ∀ value ∈ values, c.Keeps room value) : c.list.Keeps (room + 1) values :=
  mapM_map_eq_some h

/-- What is read from a list was read from some item of it. -/
theorem exists_of_mem_mapM {f : β → Option α} {items : List β} {values : List α}
    (h : items.mapM f = some values) {value : α} (hvalue : value ∈ values) :
    ∃ item, f item = some value := by
  induction items generalizing values with
  | nil =>
    obtain rfl := Option.some.inj h
    exact absurd hvalue List.not_mem_nil
  | cons item items ih =>
    rw [List.mapM_cons] at h
    obtain ⟨first, hfirst, h⟩ := Option.bind_eq_some_iff.1 h
    obtain ⟨more, hmore, h⟩ := Option.bind_eq_some_iff.1 h
    obtain rfl := Option.some.inj h
    obtain rfl | hvalue := List.mem_cons.1 hvalue
    · exact ⟨item, hfirst⟩
    · exact ih hmore hvalue

/-- A list is stable when its values are, and needs room for one more container. -/
theorem StableOn.list {holds : α → Prop} {c : Codec α} {least : Nat} (h : c.StableOn holds least) :
    c.list.StableOn (fun values => ∀ value ∈ values, holds value) (least + 1) := by
  intro room hroom json values hread hvalues
  cases room with
  | zero => exact absurd hroom (Nat.not_succ_le_zero least)
  | succ room =>
    cases json with
    | list items =>
      refine keeps_list fun value hvalue => ?_
      obtain ⟨item, hitem⟩ := exists_of_mem_mapM hread hvalue
      exact h room (Nat.le_of_succ_le_succ hroom) item value hitem (hvalues value hvalue)
    | _ => cases hread

/-- Anything but `null` is read as a value that is there. -/
theorem read_optional {c : Codec α} {json : Json} (h : json ≠ .null) (room : Nat) :
    c.optional.read room json = (c.read room json).map some := by
  cases json with
  | null => exact absurd rfl h
  | _ => rfl

theorem keeps_optional_none (c : Codec α) (room : Nat) : c.optional.Keeps room none := rfl

/-- A value that is there is kept when it is not mistaken for one that is missing. -/
theorem keeps_optional_some {c : Codec α} {room : Nat} {value : α} (h : c.Keeps room value)
    (hnull : c.write value ≠ .null) : c.optional.Keeps room (some value) := by
  show c.optional.read room (c.write value) = some (some value)
  rw [read_optional hnull, h, Option.map_some]

/-- An optional value is stable when the value is, and `null` is read as nothing else. -/
theorem StableOn.optional {holds : α → Prop} {c : Codec α} {least : Nat}
    (h : c.StableOn holds least) (hproper : c.Proper) :
    c.optional.StableOn (fun value => ∀ v ∈ value, holds v) least := by
  intro room hroom json value hread hvalue
  cases value with
  | none => exact keeps_optional_none c room
  | some value =>
    -- `null` is read as no value
    have hjson : json ≠ .null := by
      rintro rfl
      cases hread
    rw [read_optional hjson] at hread
    obtain ⟨read, hvalueread, heq⟩ := Option.map_eq_some_iff.1 hread
    obtain rfl : read = value := Option.some.inj heq
    exact keeps_optional_some (h room hroom json read hvalueread (hvalue read rfl)) fun hnull =>
      hjson (hproper room json read hvalueread hnull)

/-! ### Tables -/

open Std (ExtTreeMap)

/-- Everything in a table that was read has been read as a value, or was there before. -/
theorem exists_of_readTable {c : Codec α} {room : Nat} {members : List (Literal × Json)}
    {start table : ExtTreeMap String α}
    (h : members.foldlM (fun (table : ExtTreeMap String α) (key, value) => do
      some (table.insert (← key) (← c.read room value))) start = some table)
    {key : String} {value : α} (hvalue : table[key]? = some value) :
    start[key]? = some value ∨ ∃ json, c.read room json = some value := by
  induction members generalizing start with
  | nil =>
    obtain rfl := Option.some.inj h
    exact .inl hvalue
  | cons member members ih =>
    rw [List.foldlM_cons] at h
    obtain ⟨between, hbetween, h⟩ := Option.bind_eq_some_iff.1 h
    obtain ⟨k, -, hbetween⟩ := Option.bind_eq_some_iff.1 hbetween
    obtain ⟨v, hv, hbetween⟩ := Option.bind_eq_some_iff.1 hbetween
    obtain rfl := Option.some.inj hbetween
    -- a value that the table had between the two is that of this member, or an older one
    obtain hbefore | hread := ih h
    · rw [ExtTreeMap.getElem?_insert] at hbefore
      split at hbefore
      · obtain rfl := Option.some.inj hbefore
        exact .inr ⟨_, hv⟩
      · exact .inl hbefore
    · exact .inr hread

/-- A table is built again from its entries. -/
theorem ofList_toList (table : ExtTreeMap String α) : ExtTreeMap.ofList table.toList = table := by
  refine ExtTreeMap.ext_getElem? fun key => ?_
  cases hvalue : table[key]? with
  | some value =>
    exact ExtTreeMap.getElem?_ofList_of_mem Std.ReflCmp.compare_self
      ExtTreeMap.distinct_keys_toList (ExtTreeMap.mem_toList_iff_getElem?_eq_some.2 hvalue)
  | none =>
    refine ExtTreeMap.getElem?_ofList_of_contains_eq_false ?_
    rw [ExtTreeMap.map_fst_toList_eq_keys]
    refine Bool.eq_false_iff.2 fun hkey => ?_
    have hmem := ExtTreeMap.mem_keys.1 (List.contains_iff_mem.1 hkey)
    rw [ExtTreeMap.mem_iff_isSome_getElem?, hvalue] at hmem
    cases hmem

/-- Reading the entries that were written inserts them one after the other. -/
theorem readTable_map_write {c : Codec α} {room : Nat} {entries : List (String × α)}
    (h : ∀ entry ∈ entries, c.Keeps room entry.2) (start : ExtTreeMap String α) :
    (entries.map fun (key, value) => ((some key : Literal), c.write value)).foldlM
        (fun (table : ExtTreeMap String α) (key, value) => do
          some (table.insert (← key) (← c.read room value))) start =
      some (entries.foldl (fun table entry => table.insert entry.1 entry.2) start) := by
  induction entries generalizing start with
  | nil => rfl
  | cons entry entries ih =>
    obtain ⟨hentry, hentries⟩ := List.forall_mem_cons.1 h
    rw [List.map_cons, List.foldlM_cons, List.foldl_cons, ← ih hentries]
    show ((c.read room (c.write entry.2)).bind fun value =>
      some (start.insert entry.1 value)).bind _ = _
    rw [hentry]
    rfl

/-- A table is kept when its values are, with one more container around them. -/
theorem keeps_table {c : Codec α} {room : Nat} {table : ExtTreeMap String α}
    (h : ∀ (key : String) (value : α), table[key]? = some value → c.Keeps room value) :
    c.table.Keeps (room + 1) table := by
  have hentries : ∀ entry ∈ table.toList, c.Keeps room entry.2 := fun entry hentry =>
    h entry.1 entry.2 (ExtTreeMap.mem_toList_iff_getElem?_eq_some.1 hentry)
  -- inserting the entries one by one makes up the table again, in whatever order they come
  have hread := readTable_map_write hentries ∅
  rw [← ExtTreeMap.ofList_eq_foldl, ofList_toList] at hread
  simpa [Keeps, Codec.table, readTable, Json.record, Function.comp_def] using hread

/-- The empty table is kept where a table may stand at all. -/
theorem keeps_empty {c : Codec α} {room : Nat} (h : 0 < room) : c.table.Keeps room ∅ := by
  cases room with
  | zero => exact absurd h (Nat.lt_irrefl 0)
  | succ room => exact keeps_table fun key value hvalue => by simp at hvalue

/-- A table is stable when its values are: of a repeated key the last value was read. -/
theorem Stable.table {c : Codec α} {least : Nat} (h : c.Stable least) :
    c.table.Stable (least + 1) := by
  intro room hroom json table hread _
  cases room with
  | zero => exact absurd hroom (Nat.not_succ_le_zero least)
  | succ room =>
    cases json with
    | object members =>
      refine keeps_table fun key value hvalue => ?_
      obtain hempty | ⟨json, hjson⟩ := exists_of_readTable hread hvalue
      · simp at hempty
      · exact h room (Nat.le_of_succ_le_succ hroom) json value hjson trivial
    | _ => cases hread

end Codec

/-! ### Fields -/

namespace Field

open Codec (Stable StableOn Proper)

/-- A value of a field is read from what the field is written as. -/
def Keeps (f : Field α) (room : Nat) (value : α) : Prop :=
  f.read room (f.write value) = some value

/-- Values of a field with a property are kept once they have been read, or filled in. -/
def StableOn (holds : α → Prop) (f : Field α) (least : Nat) : Prop :=
  ∀ room, least ≤ room → ∀ place value, f.read room place = some value → holds value →
    f.Keeps room value

/-- A value that is left out in writing is the one that reading fills in. -/
def Consistent (f : Field α) : Prop :=
  ∀ value, f.omits value = true → f.absent = some value

/-- A field keeps a value that its codec keeps, also when the value is left out. -/
theorem keeps_of_codec {f : Field α} (hf : f.Consistent) {room : Nat} {value : α}
    (h : f.codec.Keeps room value) : f.Keeps room value := by
  rw [Keeps, write]
  split
  · next homits => exact hf value homits
  · exact h

/-- A field is stable when its codec is, and the value that is filled in is kept. -/
theorem stableOn_of_codec {holds : α → Prop} {f : Field α} {least : Nat} (hf : f.Consistent)
    (hcodec : f.codec.StableOn holds least)
    (habsent : ∀ value, f.absent = some value → ∀ room, least ≤ room → f.Keeps room value) :
    f.StableOn holds least := by
  intro room hroom place value hread hvalue
  cases place with
  | none => exact habsent value hread room hroom
  | some json => exact keeps_of_codec hf (hcodec room hroom json value hread hvalue)

/-- Values that are filled in are kept when they are left out in writing. -/
theorem keeps_of_omits {f : Field α} {value : α} (habsent : f.absent = some value)
    (homits : f.omits value = true) (room : Nat) : f.Keeps room value := by
  rw [Keeps, write, if_pos homits]
  exact habsent

variable {holds : α → Prop} {c : Codec α} {least : Nat}

/-- A field that must be there keeps what its codec keeps. -/
theorem keeps_required (key : String) {room : Nat} {value : α} (h : c.Keeps room value) :
    (required key c).Keeps room value :=
  keeps_of_codec nofun h

theorem keeps_text (key : String) (room : Nat) (value : String) : (text key).Keeps room value :=
  keeps_of_codec (fun _ homits => congrArg some (beq_iff_eq.1 homits).symm)
    (Codec.keeps_text room value)

/-- An optional field keeps a missing value by leaving it out. -/
theorem keeps_optional (key : String) {room : Nat} {value : Option α}
    (h : ∀ v ∈ value, c.Keeps room v) (hnull : ∀ v, c.write v ≠ .null) :
    (optional key c).Keeps room value := by
  cases value with
  | none => exact keeps_of_omits rfl rfl room
  | some v =>
    have hsome : ¬ (optional key c).omits (some v) = true := nofun
    rw [Keeps, write, if_neg hsome]
    exact Codec.keeps_optional_some (h v rfl) (hnull v)

/-- A field that must be there is as stable as its codec. -/
theorem StableOn.required (key : String) (h : c.StableOn holds least) :
    (Field.required key c).StableOn holds least :=
  stableOn_of_codec nofun h nofun

/-- The value of a defaulted field has to be kept itself, since it is always written. -/
theorem StableOn.defaulted (key : String) (h : c.StableOn holds least) {value : α}
    (hvalue : ∀ room, least ≤ room → c.Keeps room value) :
    (Field.defaulted key c value).StableOn holds least := by
  refine stableOn_of_codec nofun h fun value' heq room hroom => ?_
  obtain rfl := Option.some.inj heq
  exact keeps_of_codec nofun (hvalue room hroom)

theorem StableOn.text (key : String) : (Field.text key).StableOn (fun _ => True) 0 := by
  refine stableOn_of_codec (fun value homits => ?_) Codec.stable_text fun value heq room _ => ?_
  · exact congrArg some (beq_iff_eq.1 homits).symm
  · obtain rfl := Option.some.inj heq
    exact keeps_of_omits rfl rfl room

/-- An optional field is stable when its codec is: a missing value is left out, and a field that is
left out is read as a missing value. -/
theorem StableOn.optional (key : String) (h : c.StableOn holds least) (hproper : c.Proper) :
    (Field.optional key c).StableOn (fun value => ∀ v ∈ value, holds v) least := by
  refine stableOn_of_codec (fun value homits => ?_) (h.optional hproper) fun value heq room _ => ?_
  · exact congrArg some (Option.isNone_iff_eq_none.1 homits).symm
  · obtain rfl := Option.some.inj heq
    exact keeps_of_omits rfl rfl room

/-- A list that is left out when it is empty is stable when its values are. -/
theorem StableOn.list (key : String) (h : c.StableOn holds least) :
    (Field.list key c).StableOn (fun values => ∀ value ∈ values, holds value) (least + 1) := by
  refine stableOn_of_codec (fun value homits => ?_) h.list fun value heq room _ => ?_
  · exact congrArg some (List.isEmpty_iff.1 homits).symm
  · obtain rfl := Option.some.inj heq
    exact keeps_of_omits rfl rfl room

/-- A table that is left out when it is empty is stable when its values are. -/
theorem StableOn.table (key : String) (h : c.Stable least) :
    (Field.table key c).StableOn (fun _ => True) (least + 1) := by
  refine stableOn_of_codec (fun value homits => ?_) h.table fun value heq room _ => ?_
  · exact congrArg some (Std.ExtTreeMap.isEmpty_iff.1 homits).symm
  · obtain rfl := Option.some.inj heq
    exact keeps_of_omits rfl (@Std.ExtTreeMap.isEmpty_empty String α compare) room

end Field

/-! ### Records -/

namespace Fields

/-- The values of some fields are read from what the fields are written as. -/
def Keeps (fs : Fields α) (room : Nat) (values : α) : Prop :=
  fs.read room (fs.write values) = some values

/-- Writing fills one place for each key. -/
def Aligned (fs : Fields α) : Prop :=
  ∀ values, (fs.write values).length = fs.keys.length

/-- The values of some fields are kept once they have been read, when they have a property. -/
structure StableOn (holds : α → Prop) (fs : Fields α) (least : Nat) : Prop where
  /-- Writing fills one place for each key. -/
  aligned : fs.Aligned
  /-- What has been read is kept. -/
  keeps : ∀ room, least ≤ room → ∀ places values, fs.read room places = some values →
    holds values → fs.Keeps room values

theorem keeps_last {f : Field α} {room : Nat} {value : α} (h : f.Keeps room value) :
    (last f).Keeps room value := h

/-- Fields keep their values one by one. -/
theorem keeps_cons {f : Field α} {fs : Fields β} {room : Nat} {value : α} {values : β}
    (h : f.Keeps room value) (hfs : fs.Keeps room values) :
    (cons f fs).Keeps room (value, values) := by
  rw [Field.Keeps] at h
  rw [Keeps] at hfs
  simp [Keeps, cons, h, hfs]

theorem StableOn.last {holds : α → Prop} {f : Field α} {least : Nat}
    (h : f.StableOn holds least) : (Fields.last f).StableOn holds least where
  aligned _ := rfl
  keeps room hroom places values hread hvalues := by
    match places, hread with
    | [place], hread => exact h room hroom place values hread hvalues

/-- Fields are stable one by one; together they need the room of the one that needs most. -/
theorem StableOn.cons {holds : α → Prop} {holds' : β → Prop} {f : Field α} {fs : Fields β}
    {least least' : Nat} (h : f.StableOn holds least) (hfs : fs.StableOn holds' least') :
    (Fields.cons f fs).StableOn (fun values => holds values.1 ∧ holds' values.2)
      (max least least') where
  aligned values := congrArg Nat.succ (hfs.aligned values.2)
  keeps room hroom places values hread hvalues := by
    match places, hread with
    | place :: places, hread =>
      obtain ⟨first, hfirst, hread⟩ := Option.bind_eq_some_iff.1 hread
      obtain ⟨more, hmore, hread⟩ := Option.bind_eq_some_iff.1 hread
      obtain rfl := Option.some.inj hread
      have hleast : least ≤ room ∧ least' ≤ room := Nat.max_le.1 hroom
      exact keeps_cons (h room hleast.1 place first hfirst hvalues.1)
        (hfs.keeps room hleast.2 places more hmore hvalues.2)

/-- The members that are written have the keys of the fields. -/
theorem exists_of_mem_present {keys : List String} {places : List (Option Json)}
    {member : Literal × Json} (h : member ∈ present keys places) :
    ∃ key ∈ keys, member.1 = some key := by
  induction keys generalizing places with
  | nil => simp [present] at h
  | cons key keys ih =>
    match places with
    | [] => simp [present] at h
    | none :: places =>
      obtain ⟨other, hother, heq⟩ := ih h
      exact ⟨other, List.mem_cons_of_mem _ hother, heq⟩
    | some value :: places =>
      obtain rfl | h := List.mem_cons.1 h
      · exact ⟨key, List.mem_cons_self, rfl⟩
      · obtain ⟨other, hother, heq⟩ := ih h
        exact ⟨other, List.mem_cons_of_mem _ hother, heq⟩

/-- No member is written under a key that is none of the fields. -/
theorem filter_present_eq_nil {keys : List String} {key : String} (h : key ∉ keys)
    (places : List (Option Json)) :
    (present keys places).filter (fun (k, _) => k == some key) = [] := by
  refine List.filter_eq_nil_iff.2 fun member hmember heq => h ?_
  obtain ⟨other, hother, hkey⟩ := exists_of_mem_present hmember
  have heq : (member.1 == some key) = true := heq
  rw [hkey, beq_iff_eq, Option.some.injEq] at heq
  exact heq ▸ hother

theorem filter_eq_nil_of_ne {members : List (Literal × Json)} {key : String}
    (h : ∀ member ∈ members, member.1 ≠ some key) :
    members.filter (fun (k, _) => k == some key) = [] :=
  List.filter_eq_nil_iff.2 fun member hmember heq => h member hmember (beq_iff_eq.1 heq)

/-- Each key finds its place again among the members that stand for the filled places, behind
members with other keys. -/
theorem mapM_place?_present {keys : List String} (hkeys : keys.Nodup)
    {places : List (Option Json)} (hlength : places.length = keys.length)
    {others : List (Literal × Json)} (hothers : ∀ member ∈ others, ∀ key ∈ keys,
      member.1 ≠ some key) :
    keys.mapM (place? (others ++ present keys places)) = some places := by
  induction keys generalizing places others with
  | nil =>
    obtain rfl := List.length_eq_zero_iff.1 hlength
    rfl
  | cons key keys ih =>
    obtain ⟨hkey, hkeys⟩ := List.nodup_cons.1 hkeys
    have hnone := filter_eq_nil_of_ne fun member hmember =>
      hothers member hmember key List.mem_cons_self
    have hothers' : ∀ member ∈ others, ∀ key ∈ keys, member.1 ≠ some key :=
      fun member hmember key hkey => hothers member hmember key (List.mem_cons_of_mem _ hkey)
    match places, hlength with
    | none :: places, hlength =>
      have hplace : place? (others ++ present keys places) key = some none := by
        rw [place?, List.filter_append, hnone, filter_present_eq_nil hkey places]
        rfl
      have hmore := ih hkeys (Nat.succ.inj hlength) hothers'
      rw [present, List.mapM_cons, hplace, hmore]
      rfl
    | some value :: places, hlength =>
      have hplace : place? (others ++ (some key, value) :: present keys places) key =
          some (some value) := by
        rw [place?, List.filter_append, hnone, List.filter_cons_of_pos (by simp),
          filter_present_eq_nil hkey places]
        rfl
      -- the member of this key joins the others: no key left is this one again
      have hothers'' : ∀ member ∈ others ++ [(some key, value)], ∀ other ∈ keys,
          member.1 ≠ some other := by
        intro member hmember other hother
        obtain hmember | hmember := List.mem_append.1 hmember
        · exact hothers' member hmember other hother
        · obtain rfl := List.mem_singleton.1 hmember
          exact fun heq => hkey (Option.some.inj heq ▸ hother)
      have hmore := ih hkeys (Nat.succ.inj hlength) hothers''
      rw [List.append_assoc, List.singleton_append] at hmore
      rw [present, List.mapM_cons, hplace, hmore]
      rfl

/-- The places of the keys of a record are read from the members that stand for them. -/
theorem places?_present {keys : List String} (hkeys : keys.Nodup) {places : List (Option Json)}
    (hlength : places.length = keys.length) :
    places? keys (.object (present keys places)) = some places := by
  have htexts : (present keys places).all (fun (k, _) => k.isSome) = true := by
    refine List.all_eq_true.2 fun member hmember => ?_
    obtain ⟨key, -, heq⟩ := exists_of_mem_present hmember
    simp [heq]
  rw [places?, if_pos htexts]
  exact @mapM_place?_present keys hkeys places hlength [] nofun

/-- A record that is written has no keys but those of its fields. -/
theorem isClosed_present (keys : List String) (places : List (Option Json)) :
    isClosed keys (.object (present keys places)) = true := by
  refine List.all_eq_true.2 fun member hmember => ?_
  obtain ⟨key, hkey, heq⟩ := exists_of_mem_present hmember
  exact List.any_eq_true.2 ⟨key, hkey, by simp [heq]⟩

variable {fs : Fields α} {make : α → β} {parts : β → α}

/-- A record is kept when its fields keep its parts and their keys differ. -/
theorem keeps_codec (haligned : fs.Aligned) (hkeys : fs.keys.Nodup) {room : Nat} {value : β}
    (h : fs.Keeps room (parts value)) (hmake : make (parts value) = value) :
    (fs.codec make parts).Keeps (room + 1) value := by
  have hplaces := places?_present hkeys (haligned (parts value))
  rw [Keeps] at h
  simp [Codec.Keeps, codec, hplaces, h, hmake]

/-- A record is never written as `null`. -/
theorem proper_codec (fs : Fields α) (make : α → β) (parts : β → α) :
    (fs.codec make parts).Proper :=
  Codec.proper_of_ne_null nofun

/-- A record is stable when its fields are, which have different keys. -/
theorem StableOn.codec {holds : α → Prop} {least least' : Nat} (h : fs.StableOn holds least)
    (hkeys : fs.keys.Nodup) (hleast : least < least')
    (hparts : ∀ values, parts (make values) = values) {holds' : β → Prop}
    (hholds : ∀ value, holds' value → holds (parts value)) :
    (fs.codec make parts).StableOn holds' least' := by
  intro room hroom json value hread hvalue
  cases room with
  | zero => exact absurd hleast (by omega)
  | succ room =>
    obtain ⟨places, -, hread⟩ := Option.bind_eq_some_iff.1 hread
    obtain ⟨values, hvalues, rfl⟩ := Option.map_eq_some_iff.1 hread
    have hholds := hholds _ hvalue
    rw [hparts] at hholds
    have hkeeps := h.keeps room (by omega) places values hvalues hholds
    refine keeps_codec h.aligned hkeys ?_ ?_
    · rw [hparts]
      exact hkeeps
    · rw [hparts]

/-- A record is read by finding the places of its fields and reading each of them. -/
theorem read_codec (fs : Fields α) (make : α → β) (parts : β → α) (room : Nat) (json : Json) :
    (fs.codec make parts).read (room + 1) json =
      (places? fs.keys json).bind fun places => (fs.read room places).map make :=
  rfl

/-! ### Missing keys -/

/-- Nothing is read when the place of this key is empty. -/
def Needs (fs : Fields α) (key : String) : Prop :=
  ∀ (room : Nat) (place : String → Option Json), place key = none →
    fs.read room (fs.keys.map place) = none

theorem Needs.last (key : String) (c : Codec α) : (Fields.last (.required key c)).Needs key := by
  intro room place hnone
  show (Field.required key c).read room (place key) = none
  rw [hnone]
  rfl

theorem Needs.here (key : String) (c : Codec α) (fs : Fields β) :
    (cons (.required key c) fs).Needs key := by
  intro room place hnone
  show ((Field.required key c).read room (place key)).bind _ = none
  rw [hnone]
  rfl

/-- What one field needs, more fields before it do not make up for. -/
theorem Needs.there {fs : Fields β} {key : String} (h : fs.Needs key) (f : Field α) :
    (cons f fs).Needs key := by
  intro room place hnone
  show (f.read room (place f.key)).bind (fun value =>
    (fs.read room (fs.keys.map place)).bind fun values => some (value, values)) = none
  rw [h room place hnone]
  cases f.read room (place f.key) with
  | none => rfl
  | some value => rfl

/-- What is found for some keys is what is found for each of them. -/
theorem eq_map_of_mapM {f : String → Option (Option Json)} {keys : List String}
    {places : List (Option Json)} (h : keys.mapM f = some places) :
    places = keys.map fun key => (f key).getD none := by
  induction keys generalizing places with
  | nil => exact (Option.some.inj h).symm
  | cons key keys ih =>
    rw [List.mapM_cons] at h
    obtain ⟨place, hplace, h⟩ := Option.bind_eq_some_iff.1 h
    obtain ⟨more, hmore, h⟩ := Option.bind_eq_some_iff.1 h
    obtain rfl := Option.some.inj h
    rw [List.map_cons, hplace, ih hmore]
    rfl

/-- An object without a member for a needed key is not read. -/
theorem read_codec_of_needs {key : String} (hneeds : fs.Needs key)
    {members : List (Literal × Json)} (hmembers : ∀ member ∈ members, member.1 ≠ some key)
    (room : Nat) : (fs.codec make parts).read room (.object members) = none := by
  cases room with
  | zero => rfl
  | succ room =>
    rw [read_codec]
    cases hplaces : places? fs.keys (.object members) with
    | none => rfl
    | some places =>
      -- no member has the key, so the place for it stays empty
      have hplace : (place? members key).getD none = none := by
        rw [place?, filter_eq_nil_of_ne hmembers]
        rfl
      rw [places?] at hplaces
      split at hplaces
      · rw [eq_map_of_mapM hplaces]
        show (fs.read room _).map make = none
        rw [hneeds room (fun key => (place? members key).getD none) hplace]
        rfl
      · cases hplaces

/-- What is written for a record that does not have a needed key is not read. -/
theorem read_codec_write_of_needs {γ δ : Type} {gs : Fields γ} {make' : γ → δ} {parts' : δ → γ}
    {key : String} (hneeds : fs.Needs key) (hkey : key ∉ gs.keys) (room : Nat) (value : δ) :
    (fs.codec make parts).read room ((gs.codec make' parts').write value) = none := by
  refine read_codec_of_needs hneeds (fun member hmember heq => hkey ?_) room
  obtain ⟨other, hother, hsome⟩ := exists_of_mem_present hmember
  obtain rfl : other = key := Option.some.inj (hsome.symm.trans heq)
  exact hother

/-- A record that refuses unknown keys writes none. -/
theorem read_closedCodec_write (fs : Fields α) (make : α → β) (parts : β → α) (room : Nat)
    (value : β) :
    (fs.closedCodec make parts).read room ((fs.closedCodec make parts).write value) =
      (fs.codec make parts).read room ((fs.codec make parts).write value) :=
  if_pos (isClosed_present fs.keys (fs.write (parts value)))

end Fields

/-! ### Texts -/

namespace Codec

/-- Read a text as a value and write that value, compactly. -/
def recode? (c : Codec α) (octets : Bytes) : Option Bytes :=
  (c.ofBytes? octets).map c.toBytes

/-- An indented text is read as the value it was written for. -/
theorem ofBytes?_indented (c : Codec α) (json : Json) :
    c.ofBytes? json.indented = c.read depth json := by
  rw [ofBytes?, Json.read?_indented, Option.bind_some]

variable {holds : α → Prop} {c : Codec α} {least : Nat} {octets : Bytes} {value : α}

/-- A text that was read is read again as the same value from what is written for that. -/
theorem StableOn.keeps_bytes (h : c.StableOn holds least) (hleast : least ≤ depth)
    (hread : c.ofBytes? octets = some value) (hvalue : holds value) :
    c.ofBytes? (c.toBytes value) = some value := by
  obtain ⟨json, -, hjson⟩ := Option.bind_eq_some_iff.1 hread
  rw [ofBytes?, toBytes, Json.read?_compact, Option.bind_some]
  exact h depth hleast json value hjson hvalue

end Codec

end RegistryBench
