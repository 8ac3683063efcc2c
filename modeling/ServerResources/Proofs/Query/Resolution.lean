import ServerResources.Proofs.Bean.Matching
import ServerResources.Proofs.Query.Declared
import ServerResources.Proofs.Query.Run

/-!
# Resolved properties

What a definition declares and what is read from its class are combined to the effective
properties.  Names are identified in three ways on the way there: of declarations with
exactly the same name the last counts, of declared names and attributes that are
spellings of one name the first declared one and the last attribute, and the combination
has every name that is left, exactly as it is spelled.
-/

namespace ServerResources.Query

open Bean

/-- How properties resolve that are declared over the defaults of a class. -/
structure Resolves (properties : List Property) (defaults bag : PropertyBag) : Prop where
  ascending : bag.keys.Pairwise (· < ·)
  declared : ∀ name ∈ properties.map Property.name, name ∈ bag.keys
  /-- A name has the value of its last declaration, if that has one. -/
  value : ∀ property, IsLastBy Property.name properties property →
    ∀ text, property.value = some text → bag.get? property.name = some text
  /-- Without one, the first spelling of a name takes the default of the last attribute. -/
  default : ∀ property, IsLastBy Property.name properties property → property.value = none →
    firstSpelling (properties.map Property.name) property.name = some property.name →
      bag.get? property.name =
        some (((lastSpelling defaults.keys property.name).bind defaults.get?).getD "")
  /-- Any later spelling is empty. -/
  blank : ∀ property, IsLastBy Property.name properties property → property.value = none →
    firstSpelling (properties.map Property.name) property.name ≠ some property.name →
      bag.get? property.name = some ""
  /-- A name that is not declared is the last attribute of its spelling, and no declared
  name is another spelling. -/
  undeclared : ∀ name, name ∉ properties.map Property.name →
    bag.get? name =
      if firstSpelling (properties.map Property.name) name = none ∧
          lastSpelling defaults.keys name = some name then
        defaults.get? name
      else none
  /-- Different spellings of one name are declared. -/
  spellings : ∀ name ∈ bag.keys, ∀ other ∈ bag.keys, name ≠ other →
    Text.lowercase name = Text.lowercase other →
      name ∈ properties.map Property.name ∧ other ∈ properties.map Property.name

section Merge

variable (properties : List Property) (defaults : PropertyBag)

/-- Declared properties over the defaults under the declared names. -/
def resolved : PropertyBag :=
  PropertyBag.merge (Property.declared properties)
    (PropertyBag.toPartial (matchNames defaults (properties.map Property.name)))

variable {properties defaults}

theorem get?_resolved_of_isLastBy {property : Property}
    (last : IsLastBy Property.name properties property) :
    (resolved properties defaults).get? property.name =
      some (property.value.getD
        (((matchNames defaults (properties.map Property.name)).get? property.name).getD "")) := by
  have declared : property.name ∈ (Property.declared properties).keys :=
    (Property.mem_keys_declared properties property.name).mpr (List.mem_map_of_mem last.mem)
  rw [resolved, PropertyBag.get?_merge, if_pos (.inl declared), PropertyBag.mergedValue,
    Property.get?_declared_of_isLastBy last, PropertyBag.toPartial, OrderedMap.get?_map]
  cases property.value with
  | some text => rfl
  | none =>
      cases (matchNames defaults (properties.map Property.name)).get? property.name with
      | some text => rfl
      | none => rfl

theorem get?_resolved_of_undeclared {name : String}
    (undeclared : name ∉ properties.map Property.name) :
    (resolved properties defaults).get? name =
      (matchNames defaults (properties.map Property.name)).get? name := by
  have absent : name ∉ (Property.declared properties).keys := by
    rw [Property.mem_keys_declared]
    exact undeclared
  have unvalued : (Property.declared properties).get? name = none :=
    (OrderedMap.get?_eq_none_iff _ name).mpr absent
  rw [resolved, PropertyBag.get?_merge, PropertyBag.mergedValue, unvalued, PropertyBag.toPartial,
    OrderedMap.get?_map, OrderedMap.keys_map]
  cases found : (matchNames defaults (properties.map Property.name)).get? name with
  | none =>
      have missing := (OrderedMap.get?_eq_none_iff _ name).mp found
      rw [if_neg (not_or.mpr ⟨absent, missing⟩)]
  | some text =>
      have present := (OrderedMap.mem_keys_iff _ name).mpr ⟨text, found⟩
      rw [if_pos (.inr present)]
      rfl

/-- A key that is not declared is the only spelling of its name. -/
theorem eq_of_undeclared {name other : String}
    (undeclared : name ∉ properties.map Property.name)
    (named : name ∈ (resolved properties defaults).keys)
    (otherNamed : other ∈ (resolved properties defaults).keys)
    (same : Text.lowercase name = Text.lowercase other) : name = other := by
  have only : ∀ key, key ∈ (resolved properties defaults).keys →
      key ∉ properties.map Property.name →
      firstSpelling (properties.map Property.name) key = none ∧
        lastSpelling defaults.keys key = some key := by
    intro key present absent
    rcases (OrderedMap.mem_keys_iff _ key).mp present with ⟨text, found⟩
    rw [get?_resolved_of_undeclared absent, get?_matchNames_of_undeclared absent] at found
    split at found
    next both => exact both
    next => cases found
  rcases only name named undeclared with ⟨unspelled, last⟩
  have otherUndeclared : other ∉ properties.map Property.name := by
    intro declared
    rw [firstSpelling_eq_none_iff, same] at unspelled
    exact unspelled (List.mem_map_of_mem declared)
  have otherLast := (only other otherNamed otherUndeclared).2
  rw [lastSpelling_congr same, otherLast] at last
  exact (Option.some.inj last).symm

theorem resolves_resolved (properties : List Property) (defaults : PropertyBag) :
    Resolves properties defaults (resolved properties defaults) where
  ascending := by
    rw [resolved, PropertyBag.keys_merge]
    exact Ascending.pairwise_ofList _
  declared := by
    intro name declared
    rcases exists_isLastBy declared with ⟨property, last, rfl⟩
    exact (OrderedMap.mem_keys_iff _ _).mpr ⟨_, get?_resolved_of_isLastBy last⟩
  value := by
    intro property last text valued
    rw [get?_resolved_of_isLastBy last, valued, Option.getD_some]
  default := by
    intro property last unvalued first
    have declared : property.name ∈ properties.map Property.name := List.mem_map_of_mem last.mem
    rw [get?_resolved_of_isLastBy last, unvalued, Option.getD_none,
      get?_matchNames_of_declared declared, if_pos first]
  blank := by
    intro property last unvalued notFirst
    have declared : property.name ∈ properties.map Property.name := List.mem_map_of_mem last.mem
    rw [get?_resolved_of_isLastBy last, unvalued, Option.getD_none,
      get?_matchNames_of_declared declared, if_neg notFirst, Option.getD_none]
  undeclared := by
    intro name undeclared
    rw [get?_resolved_of_undeclared undeclared, get?_matchNames_of_undeclared undeclared]
  spellings := by
    intro name named other otherNamed different same
    constructor
    · apply Decidable.byContradiction
      intro undeclared
      exact different (eq_of_undeclared undeclared named otherNamed same)
    · apply Decidable.byContradiction
      intro undeclared
      exact different (eq_of_undeclared undeclared otherNamed named same.symm).symm

end Merge

/-- The effective properties of a definition, for every class that is loaded and read. -/
theorem effective_resolves {ρ : Type} [Configured ρ] (entity : ρ) (load : Bean.Loader)
    (archive : Option String) (calls : List Introspector.Call) {className : String} {bean : Bean}
    {readings : List (String × String)}
    (implemented : Configured.implementation entity = some className) (notEmpty : className ≠ "")
    (loaded : load className = .ok bean) (constructed : bean.constructorFailure = none)
    (read : bean.readings = .ok readings) :
    ∃ bag, (((Introspector.ofLoader load).effective entity archive).run calls).1 =
        .ok (some bag) ∧
      Resolves (Configured.properties entity) (.ofList readings) bag := by
  refine ⟨resolved (Configured.properties entity) (.ofList readings), ?_,
    resolves_resolved _ _⟩
  have defaults : bean.defaults = .ok (.ofList readings) := by
    rw [defaults_eq_readings, read]
    rfl
  have answer : Introspector.readBean load className
      ((Configured.properties entity).map Property.name) archive =
        .ok (matchNames (.ofList readings)
          ((Configured.properties entity).map Property.name)) := by
    rw [Introspector.readBean, loaded]
    simp only [bind, Except.bind, constructed, defaults]
  rw [run_effective_of_class _ _ entity archive implemented notEmpty]
  simp only [Introspector.ofLoader, answer]
  rfl

/-- A declared name without a value. -/
def nameOnly (name : String) : Property :=
  ⟨name, none, Property.defaultType, none, false⟩

/-- A queue that declares some names only. -/
def queueDeclaring (names : List String) : AdminObject :=
  ⟨"jakarta.jms.Queue", some "beans.Queue", names.map nameOnly⟩

/-- A class with two attributes. -/
def hostedBean : Bean :=
  ⟨[{ attributes := [("name", .text "orders"), ("Host", .text "localhost")] }]⟩

theorem effective_resolves_hosted :
    ∃ bag, (((Introspector.ofLoader (.ofClasses [("beans.Queue", hostedBean)])).effective
        (queueDeclaring ["NAME", "Name"]) none).run []).1 = .ok (some bag) ∧
      bag.get? "NAME" = some "orders" ∧ bag.get? "Name" = some "" ∧
      bag.get? "Host" = some "localhost" := by
  have read : hostedBean.readings = .ok [("name", "orders"), ("Host", "localhost")] := rfl
  rcases effective_resolves (queueDeclaring ["NAME", "Name"])
    (.ofClasses [("beans.Queue", hostedBean)]) none [] rfl (by decide) rfl rfl read with
    ⟨bag, answer, resolves⟩
  refine ⟨bag, answer, ?_, ?_, ?_⟩
  · have last : IsLastBy Property.name [nameOnly "NAME", nameOnly "Name"] (nameOnly "NAME") :=
      ⟨[], [nameOnly "Name"], rfl, by decide⟩
    exact (resolves.default _ last rfl (by decide +kernel)).trans (by decide +kernel)
  · have last : IsLastBy Property.name [nameOnly "NAME", nameOnly "Name"] (nameOnly "Name") :=
      ⟨[nameOnly "NAME"], [], rfl, by decide⟩
    exact resolves.blank _ last rfl (by decide +kernel)
  · exact (resolves.undeclared "Host" (by decide)).trans (by decide +kernel)

/-- A class with two properties that are spellings of one name.  An attribute replaces the
first of them. -/
def replacingBean : Bean :=
  ⟨[{ attributes := [("Name", .text "attribute")]
      members :=
        [ ("Name", .property (some (.returns (.text "first"))) true),
          ("name", .property (some (.returns (.text "second"))) true) ] }]⟩

/-- The attribute is read last, but stands where the property was that it replaces. -/
theorem replaced_property_keeps_place :
    ∃ readings, replacingBean.readings = .ok readings ∧
      (readings.reverse.find? fun reading =>
        Text.lowercase reading.1 = Text.lowercase "NAME") = some ("Name", "attribute") ∧
      ∃ bag, (((Introspector.ofLoader (.ofClasses [("beans.Queue", replacingBean)])).effective
          (queueDeclaring ["NAME"]) none).run []).1 = .ok (some bag) ∧
        bag.get? "NAME" = some "second" := by
  refine ⟨_, rfl, by decide +kernel, _, rfl, ?_⟩
  decide +kernel

end ServerResources.Query
