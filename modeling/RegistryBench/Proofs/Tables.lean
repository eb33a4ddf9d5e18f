import Std.Data.ExtTreeMap

/-!
# What tables hold

The values of a table come in the order of their keys. Where every value is stored under a key that
can be read off it, a value is among them exactly when it is found under its own key
(`mem_values_iff_of_keyed`), and the values are in strictly ascending order of what is read off
(`pairwise_values_of_keyed`), so that none comes twice.
-/

namespace RegistryBench.Tables

open Std (ExtTreeMap TransCmp LawfulEqCmp)

variable {α β : Type} {cmp : α → α → Ordering} [TransCmp cmp]

/-- The values of a table are those of its entries. -/
theorem values_eq_map_toList (table : ExtTreeMap α β cmp) :
    table.values = table.toList.map Prod.snd := by
  have hfold : table.values = table.foldr (fun _ value values => value :: values) [] := rfl
  rw [hfold, ExtTreeMap.foldr_eq_foldr_toList, List.map_eq_foldr]

/-- Each value is that of some key. -/
theorem mem_values_iff [LawfulEqCmp cmp] (table : ExtTreeMap α β cmp) (value : β) :
    value ∈ table.values ↔ ∃ key : α, table[key]? = some value := by
  rw [values_eq_map_toList, List.mem_map]
  constructor
  · rintro ⟨⟨key, _⟩, hmem, rfl⟩
    exact ⟨key, ExtTreeMap.mem_toList_iff_getElem?_eq_some.1 hmem⟩
  · rintro ⟨key, hkey⟩
    exact ⟨(key, value), ExtTreeMap.mem_toList_iff_getElem?_eq_some.2 hkey, rfl⟩

/-- Every value is stored under the key that is read off it. -/
def Keyed (keyOf : β → α) (table : ExtTreeMap α β cmp) : Prop :=
  ∀ key value, table[key]? = some value → keyOf value = key

variable [LawfulEqCmp cmp] {keyOf : β → α} {table : ExtTreeMap α β cmp}

/-- A value is in a keyed table when it is found under its own key. -/
theorem mem_values_iff_of_keyed (hkeyed : Keyed keyOf table) (value : β) :
    value ∈ table.values ↔ table[keyOf value]? = some value := by
  rw [mem_values_iff]
  constructor
  · rintro ⟨key, hkey⟩
    rwa [hkeyed key value hkey]
  · exact fun hvalue => ⟨_, hvalue⟩

/-- The values of a keyed table come in strictly ascending order of their keys. -/
theorem pairwise_values_of_keyed (hkeyed : Keyed keyOf table) :
    table.values.Pairwise fun first second => cmp (keyOf first) (keyOf second) = .lt := by
  rw [values_eq_map_toList, List.pairwise_map]
  refine List.Pairwise.imp_of_mem ?_ table.ordered_keys_toList
  rintro ⟨key, value⟩ ⟨key', value'⟩ hmem hmem' hlt
  rwa [hkeyed key value (ExtTreeMap.mem_toList_iff_getElem?_eq_some.1 hmem),
    hkeyed key' value' (ExtTreeMap.mem_toList_iff_getElem?_eq_some.1 hmem')]

end RegistryBench.Tables
