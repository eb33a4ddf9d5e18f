import RegistryBench.Text.Utf8

/-!
# Header fields

The header fields of a request: names in lower case with values of any octets. A name may have
several values, which keep their order.
-/

namespace RegistryBench

/-- Header fields in the order they were added. -/
structure Headers where
  /-- The names and values. -/
  fields : List (String × Bytes)
deriving DecidableEq

namespace Headers

/-- No header fields. -/
def empty : Headers := ⟨[]⟩

/-- A name in lower case. -/
def nameOf (name : String) : String :=
  String.ofList (name.toList.map Char.toLower)

/-- Header fields with names of any case. -/
def ofList (fields : List (String × Bytes)) : Headers :=
  ⟨fields.map fun (name, value) => (nameOf name, value)⟩

/-- The values of a name, in order. -/
def values (headers : Headers) (name : String) : List Bytes :=
  (headers.fields.filter fun (n, _) => n = name).map (·.2)

/-- Without the values of a name. -/
def remove (headers : Headers) (name : String) : Headers :=
  ⟨headers.fields.filter fun (n, _) => n ≠ name⟩

/-- With some more values of a name. -/
def append (headers : Headers) (name : String) (values : List Bytes) : Headers :=
  ⟨headers.fields ++ values.map fun value => (name, value)⟩

/-- The fields sorted by name; the values of one name keep their order. -/
def sorted (headers : Headers) : List (String × Bytes) :=
  headers.fields.mergeSort fun a b => a.1 ≤ b.1

@[simp]
theorem values_remove_self (headers : Headers) (name : String) :
    (headers.remove name).values name = [] := by
  simp [values, remove, List.filter_filter]

@[simp]
theorem values_append_self (headers : Headers) (name : String) (values : List Bytes) :
    (headers.append name values).values name = headers.values name ++ values := by
  simp [Headers.values, append, List.filter_map, Function.comp_def]

@[simp]
theorem remove_remove_self (headers : Headers) (name : String) :
    (headers.remove name).remove name = headers.remove name := by
  simp [remove, List.filter_filter]

@[simp]
theorem remove_append_self (headers : Headers) (name : String) (values : List Bytes) :
    (headers.append name values).remove name = headers.remove name := by
  simp [remove, append, List.filter_map, Function.comp_def]

end Headers

end RegistryBench
