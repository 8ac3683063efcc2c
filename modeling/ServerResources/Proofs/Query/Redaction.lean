import ServerResources.Proofs.PropertyBag
import ServerResources.Proofs.Query.Declared
import ServerResources.Resource

/-!
# Redaction

A redacted definition has no values where a property is confidential; everything
else is as it was.  The names that a definition declares, the confidential ones among
them and the values of all other names can be told from the redacted definition.
-/

namespace ServerResources

namespace Property

/-- The property without its value if it is confidential. -/
def redacted (property : Property) : Property :=
  if property.confidential then { property with value := none } else property

@[simp] theorem name_redacted (property : Property) : property.redacted.name = property.name := by
  unfold redacted
  split <;> rfl

@[simp] theorem confidential_redacted (property : Property) :
    property.redacted.confidential = property.confidential := by
  unfold redacted
  split <;> rfl

theorem redacted_of_public {property : Property} (shown : property.confidential = false) :
    property.redacted = property := by
  rw [redacted, shown]
  rfl

theorem names_redacted (properties : List Property) :
    (properties.map redacted).map name = properties.map name := by
  rw [List.map_map]
  apply List.map_congr_left
  intro property _
  exact property.name_redacted

theorem confidentialNames_redacted (properties : List Property) :
    confidentialNames (properties.map redacted) = confidentialNames properties := by
  unfold confidentialNames
  rw [List.filter_map, List.map_map]
  have filters : Property.confidential ∘ redacted = Property.confidential := by
    funext property
    exact property.confidential_redacted
  rw [filters]
  apply List.map_congr_left
  intro property _
  exact property.name_redacted

theorem keys_declared_redacted (properties : List Property) :
    (declared (properties.map redacted)).keys = (declared properties).keys := by
  rw [keys_declared, keys_declared, names_redacted]

/-- Redaction does not touch the declarations of a name that is never confidential. -/
theorem get?_declared_redacted (properties : List Property) {name : String}
    (shown : name ∉ confidentialNames properties) :
    (declared (properties.map redacted)).get? name = (declared properties).get? name := by
  have named : (fun property => decide (Property.name property = name)) ∘ redacted =
      fun property => decide (property.name = name) := by
    funext property
    rw [Function.comp_apply, name_redacted]
  rw [get?_declared, get?_declared, ← List.map_reverse, List.find?_map, named]
  cases found : properties.reverse.find? fun property => property.name = name with
  | none => rfl
  | some property =>
      rcases find?_reverse_eq_some_iff.mp found with ⟨last, rfl⟩
      have notConfidential : property.confidential = false := by
        rw [← Bool.not_eq_true]
        intro confidential
        apply shown
        exact List.mem_map_of_mem (List.mem_filter.mpr ⟨last.mem, confidential⟩)
      rw [Option.map_some, redacted_of_public notConfidential]

end Property

namespace AdminObject

/-- The administered object with its properties redacted. -/
def redacted (object : AdminObject) : AdminObject :=
  { object with properties := object.properties.map Property.redacted }

end AdminObject

namespace Connector

/-- The connector with its administered objects redacted. -/
def redacted (connector : Connector) : Connector :=
  { connector with adminObjects := connector.adminObjects.map AdminObject.redacted }

end Connector

namespace PropertyBag

/-- The names of the effective properties do not depend on confidential values. -/
theorem keys_merge_redacted (properties : List Property) (defaults : PartialBag) :
    (merge (Property.declared (properties.map Property.redacted)) defaults).keys =
      (merge (Property.declared properties) defaults).keys := by
  rw [keys_merge, keys_merge, mergedNames, mergedNames, Property.keys_declared_redacted]

/-- Nor do the values of names that are not confidential. -/
theorem get?_merge_redacted (properties : List Property) (defaults : PartialBag) {name : String}
    (shown : name ∉ Property.confidentialNames properties) :
    (merge (Property.declared (properties.map Property.redacted)) defaults).get? name =
      (merge (Property.declared properties) defaults).get? name := by
  rw [get?_merge, get?_merge, Property.keys_declared_redacted, mergedValue, mergedValue,
    Property.get?_declared_redacted properties shown]

/-- Every confidential name is among the effective properties. -/
theorem mem_keys_merge_of_confidential {properties : List Property} (defaults : PartialBag)
    {name : String} (confidential : name ∈ Property.confidentialNames properties) :
    name ∈ (merge (Property.declared properties) defaults).keys := by
  rcases List.mem_map.mp confidential with ⟨property, member, rfl⟩
  have present := (List.mem_filter.mp member).1
  have declared : property.name ∈ (Property.declared properties).keys :=
    (Property.mem_keys_declared properties _).mpr (List.mem_map_of_mem present)
  exact (mem_keys_merge _ defaults property.name).mpr (.inl declared)

end PropertyBag

end ServerResources
