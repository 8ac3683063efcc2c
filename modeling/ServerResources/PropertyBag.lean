import ServerResources.OrderedMap
import ServerResources.Text.Ascending

/-!
# Property bags

The effective properties of a resource combine two maps: the values that its
definition declares and the defaults of its implementation class.  Every name of
either map is present; a declared value wins over a default, and a name with
neither is empty.  The result is ascending by name.
-/

namespace ServerResources

/-- Names with a value or without one. -/
abbrev PartialBag := OrderedMap String (Option String)

/-- Names with their values. -/
abbrev PropertyBag := OrderedMap String String

namespace PropertyBag

/-- The value of a name in the combination of two maps. -/
def mergedValue (declared defaults : PartialBag) (name : String) : String :=
  match (declared.get? name).join with
  | some value => value
  | none => ((defaults.get? name).join).getD ""

/-- The names of both maps in ascending order. -/
def mergedNames (declared defaults : PartialBag) : List String :=
  Ascending.ofList (declared.keys ++ defaults.keys)

/-- Declared values over defaults. -/
def merge (declared defaults : PartialBag) : PropertyBag where
  entries := (mergedNames declared defaults).map fun name =>
    (name, mergedValue declared defaults name)
  keys_nodup := by
    simpa [Function.comp_def, mergedNames] using
      Ascending.nodup_ofList (declared.keys ++ defaults.keys)

/-- The names of a combination are those of its parts, in ascending order. -/
theorem keys_merge (declared defaults : PartialBag) :
    (merge declared defaults).keys = mergedNames declared defaults := by
  simp [OrderedMap.keys, merge, Function.comp_def]

theorem find_map_pair (value : String → String) (name : String) (names : List String) :
    OrderedMap.find name (names.map fun other => (other, value other)) =
      if name ∈ names then some (value name) else none := by
  induction names with
  | nil => rfl
  | cons head rest ih =>
      by_cases here : head = name
      · simp [OrderedMap.find, here]
      · have away : ¬ name = head := fun equal => here equal.symm
        simp [OrderedMap.find, here, away, ih]

/-- A name of either part has its merged value. -/
theorem get?_merge (declared defaults : PartialBag) (name : String) :
    (merge declared defaults).get? name =
      if name ∈ declared.keys ∨ name ∈ defaults.keys then
        some (mergedValue declared defaults name)
      else none := by
  have names : name ∈ mergedNames declared defaults ↔
      name ∈ declared.keys ∨ name ∈ defaults.keys := by
    simp [mergedNames, Ascending.mem_ofList]
  simp only [OrderedMap.get?, merge, find_map_pair, names]

/-- A bag as a map whose values may be absent. -/
def toPartial (bag : PropertyBag) : PartialBag :=
  bag.map some

end PropertyBag

end ServerResources
