import ServerResources.Proofs.LastByKey
import ServerResources.Proofs.OrderedMap
import ServerResources.Property

/-!
# What declarations amount to

A name may be declared several times.  Its place among the declared names is that of the
first declaration, its value that of the last one, with or without a value.
-/

namespace ServerResources.Property

/-- The order of the declared names depends on the names only. -/
theorem keys_declared (properties : List Property) :
    (declared properties).keys =
      (properties.map name).foldl
        (fun names name => if name ∈ names then names else names ++ [name]) [] := by
  rw [declared, OrderedMap.ofList, OrderedMap.keys_insertAll, List.map_map]
  rfl

theorem mem_keys_declared (properties : List Property) (name : String) :
    name ∈ (declared properties).keys ↔ name ∈ properties.map Property.name := by
  rw [declared, OrderedMap.ofList, OrderedMap.mem_keys_insertAll, List.map_map]
  simp only [OrderedMap.keys_empty, List.not_mem_nil, false_or]
  rfl

/-- The place of the first declaration of a name. -/
def place (properties : List Property) (name : String) : Nat :=
  (properties.map Property.name).idxOf name

/-- The declared names stand in the order of their first declarations. -/
theorem pairwise_keys_declared (properties : List Property) :
    (declared properties).keys.Pairwise fun name other =>
      place properties name < place properties other := by
  have ordered := (OrderedMap.follows_ofList
    (properties.map fun property => (property.name, property.value))).ordered
  rw [List.map_map] at ordered
  exact ordered

/-- The value of a name is that of its last declaration. -/
theorem get?_declared (properties : List Property) (name : String) :
    (declared properties).get? name =
      (properties.reverse.find? fun property => property.name = name).map value := by
  rw [declared, OrderedMap.ofList, OrderedMap.get?_insertAll, ← List.map_reverse,
    OrderedMap.find_map, OrderedMap.get?_empty, Option.or_none]

theorem get?_declared_of_isLastBy {properties : List Property} {property : Property}
    (last : IsLastBy name properties property) :
    (declared properties).get? property.name = some property.value := by
  rw [get?_declared, find?_reverse_eq_some_iff.mpr ⟨last, rfl⟩, Option.map_some]

theorem value?_of_isLastBy {properties : List Property} {property : Property}
    (last : IsLastBy name properties property) :
    value? properties property.name = property.value := by
  rw [value?, get?_declared_of_isLastBy last]
  rfl

theorem value?_of_undeclared {properties : List Property} {name : String}
    (undeclared : name ∉ properties.map Property.name) : value? properties name = none := by
  rw [← mem_keys_declared, ← OrderedMap.get?_eq_none_iff] at undeclared
  rw [value?, undeclared]
  rfl

end ServerResources.Property
