import ServerResources.Proofs.OrderedMap
import ServerResources.PropertyBag

/-!
# Layers of properties

Combining two maps puts one layer over another.  What the combination has at a name depends
on what the two layers have there, and a layer may have three different things: no entry, an
entry without a value, and a value, which may be empty.  A combination has a value at each of
its names, so it covers a layer below it, and below another layer it shows where that one has
none.  Its names are ascending, so nothing but the values at single names tells two
combinations apart.

The laws of layers are therefore laws at a single name, and those are a matter of cases.
-/

namespace ServerResources.PropertyBag

/-! ## Ascending bags -/

theorem pairwise_keys_merge (declared defaults : PartialBag) :
    (merge declared defaults).keys.Pairwise (· < ·) := by
  rw [keys_merge]
  exact Ascending.pairwise_ofList _

theorem mem_keys_merge (declared defaults : PartialBag) (name : String) :
    name ∈ (merge declared defaults).keys ↔ name ∈ declared.keys ∨ name ∈ defaults.keys := by
  rw [keys_merge, mergedNames, Ascending.mem_ofList, List.mem_append]

/-- Ascending bags are equal if they have the same at each name. -/
theorem ext_of_ascending {left right : PropertyBag} (leftAscending : left.keys.Pairwise (· < ·))
    (rightAscending : right.keys.Pairwise (· < ·))
    (same : ∀ name, left.get? name = right.get? name) : left = right := by
  apply OrderedMap.ext_get? ?_ same
  apply Ascending.eq_of_mem_iff leftAscending rightAscending
  intro name
  rw [OrderedMap.mem_keys_iff, OrderedMap.mem_keys_iff, same]

/-! ## At one name -/

/-- What a combination has at a name, given what its layers have there. -/
def mergedEntry : Option (Option String) → Option (Option String) → Option String
  | none, none => none
  | declared, default => some ((declared.join.or default.join).getD "")

theorem get?_merge_eq (declared defaults : PartialBag) (name : String) :
    (merge declared defaults).get? name =
      mergedEntry (declared.get? name) (defaults.get? name) := by
  simp only [get?_merge, mergedValue, ← OrderedMap.contains_iff, OrderedMap.contains]
  rcases declared.get? name with _ | _ | _
  · rcases defaults.get? name with _ | _ | _ <;> simp [mergedEntry]
  · simp [mergedEntry]
  · simp [mergedEntry]

theorem get?_toPartial (bag : PropertyBag) (name : String) :
    bag.toPartial.get? name = (bag.get? name).map some :=
  bag.get?_map some name

/-- What all combinations with the same at each name have in common is everything. -/
theorem merge_eq_of_entries {bag : PropertyBag} {declared defaults : PartialBag}
    (ascending : bag.keys.Pairwise (· < ·))
    (same : ∀ name, mergedEntry (declared.get? name) (defaults.get? name) = bag.get? name) :
    merge declared defaults = bag := by
  apply ext_of_ascending (pairwise_keys_merge declared defaults) ascending
  intro name
  rw [get?_merge_eq, same]

/-- A layer that a combination contains adds nothing below the combination. -/
theorem mergedEntry_lower (declared default : Option (Option String)) :
    mergedEntry ((mergedEntry declared default).map some) default =
      mergedEntry declared default := by
  rcases declared with _ | _ | _ <;> rcases default with _ | _ | _ <;> rfl

/-- A layer that a combination contains adds nothing above the combination. -/
theorem mergedEntry_upper (declared default : Option (Option String)) :
    mergedEntry declared ((mergedEntry declared default).map some) =
      mergedEntry declared default := by
  rcases declared with _ | _ | _ <;> rcases default with _ | _ | _ <;> rfl

/-! ## The laws -/

/-- The first value that some layers have for a name, or nothing if none has one. -/
def firstValue (layers : List PartialBag) (name : String) : String :=
  (layers.findSome? fun layer => (layer.get? name).join).getD ""

theorem get?_merge_of_mem {declared defaults : PartialBag} {name : String}
    (member : name ∈ (merge declared defaults).keys) :
    (merge declared defaults).get? name = some (firstValue [declared, defaults] name) := by
  obtain ⟨value, found⟩ := (OrderedMap.mem_keys_iff _ name).mp member
  rw [get?_merge_eq] at found ⊢
  simp only [firstValue, List.findSome?_cons, List.findSome?_nil]
  generalize declared.get? name = upper at found ⊢
  generalize defaults.get? name = lower at found ⊢
  rcases upper with _ | _ | _
  · rcases lower with _ | _ | _
    · cases found
    · rfl
    · rfl
  · rcases lower with _ | _ | _ <;> rfl
  · rfl

/-- Below a layer, a combination shows the first value of its own layers. -/
theorem firstValue_merge (upper declared defaults : PartialBag) (name : String) :
    firstValue [upper, (merge declared defaults).toPartial] name =
      firstValue [upper, declared, defaults] name := by
  simp only [firstValue, List.findSome?_cons, List.findSome?_nil, get?_toPartial, get?_merge_eq]
  rcases upper.get? name with _ | _ | _
  · rcases declared.get? name with _ | _ | _ <;> rcases defaults.get? name with _ | _ | _ <;> rfl
  · rcases declared.get? name with _ | _ | _ <;> rcases defaults.get? name with _ | _ | _ <;> rfl
  · rfl

/-- How the combination of two layers is related to them and to other layers. -/
structure Layered (declared defaults : PartialBag) : Prop where
  ascending : (merge declared defaults).keys.Pairwise (· < ·)
  mem_keys : ∀ name, name ∈ (merge declared defaults).keys ↔
    name ∈ declared.keys ∨ name ∈ defaults.keys
  get?_of_mem : ∀ name ∈ (merge declared defaults).keys,
    (merge declared defaults).get? name = some (firstValue [declared, defaults] name)
  not_null : ∀ name, (merge declared defaults).toPartial.get? name ≠ some none
  of_perm : ∀ upper lower : PartialBag, upper.entries.Perm declared.entries →
    lower.entries.Perm defaults.entries → merge upper lower = merge declared defaults
  over_lower : merge (merge declared defaults).toPartial defaults = merge declared defaults
  under_upper : merge declared (merge declared defaults).toPartial = merge declared defaults
  over_empty : merge (merge declared defaults).toPartial ∅ = merge declared defaults
  under_empty : merge ∅ (merge declared defaults).toPartial = merge declared defaults
  mem_keys_under : ∀ (upper : PartialBag) (name : String),
    name ∈ (merge upper (merge declared defaults).toPartial).keys ↔
      name ∈ upper.keys ∨ name ∈ declared.keys ∨ name ∈ defaults.keys
  get?_under : ∀ (upper : PartialBag),
    ∀ name ∈ (merge upper (merge declared defaults).toPartial).keys,
      (merge upper (merge declared defaults).toPartial).get? name =
        some (firstValue [upper, declared, defaults] name)
  get?_over : ∀ (lower : PartialBag), ∀ name ∈ (merge declared defaults).keys,
    (merge (merge declared defaults).toPartial lower).get? name =
      (merge declared defaults).get? name

/-- A combination has the first value of its layers at each name of either, and as a layer
of another combination it stands for both of them. -/
theorem merge_layered (declared defaults : PartialBag) : Layered declared defaults := by
  have ascending := pairwise_keys_merge declared defaults
  constructor
  case ascending => exact ascending
  case mem_keys => exact mem_keys_merge declared defaults
  case get?_of_mem => exact fun _ => get?_merge_of_mem
  case not_null =>
    intro name
    rw [get?_toPartial]
    cases (merge declared defaults).get? name <;> simp
  case of_perm =>
    intro upper lower sameUpper sameLower
    apply merge_eq_of_entries ascending
    intro name
    rw [get?_merge_eq, OrderedMap.get?_of_perm sameUpper, OrderedMap.get?_of_perm sameLower]
  case over_lower =>
    apply merge_eq_of_entries ascending
    intro name
    rw [get?_toPartial, get?_merge_eq, mergedEntry_lower]
  case under_upper =>
    apply merge_eq_of_entries ascending
    intro name
    rw [get?_toPartial, get?_merge_eq, mergedEntry_upper]
  case over_empty =>
    apply merge_eq_of_entries ascending
    intro name
    rw [get?_toPartial, OrderedMap.get?_empty]
    cases (merge declared defaults).get? name <;> rfl
  case under_empty =>
    apply merge_eq_of_entries ascending
    intro name
    rw [get?_toPartial, OrderedMap.get?_empty]
    cases (merge declared defaults).get? name <;> rfl
  case mem_keys_under =>
    intro upper name
    rw [mem_keys_merge, toPartial, OrderedMap.keys_map, mem_keys_merge]
  case get?_under =>
    intro upper name member
    rw [get?_merge_of_mem member, firstValue_merge]
  case get?_over =>
    intro lower name member
    obtain ⟨value, found⟩ := (OrderedMap.mem_keys_iff _ name).mp member
    rw [get?_merge_eq, get?_toPartial, found]
    rfl

/-- Layers with no value, with the empty one and with others. -/
theorem merge_layered_queue :
    let declared : PartialBag := .ofList [("name", none), ("mode", some ""), ("size", some "10")]
    let defaults : PartialBag := .ofList [("size", some "5"), ("name", some "orders")]
    let others : PartialBag := .ofList [("user", none), ("mode", some "fast")]
    let merged := merge declared defaults
    merged.keys = ["mode", "name", "size"] ∧
      merged.get? "mode" = some "" ∧ merged.get? "name" = some "orders" ∧
      merge (.ofList [("mode", some ""), ("size", some "10"), ("name", none)])
        (.ofList [("name", some "orders"), ("size", some "5")]) = merged ∧
      (merge others merged.toPartial).get? "user" = some "" ∧
      (merge merged.toPartial others).get? "mode" = some "" := by
  intro declared defaults others merged
  have layered := merge_layered declared defaults
  refine ⟨by decide +kernel, ?_, ?_, ?_, ?_, ?_⟩
  · exact (layered.get?_of_mem "mode" (by decide +kernel)).trans (by decide +kernel)
  · exact (layered.get?_of_mem "name" (by decide +kernel)).trans (by decide +kernel)
  · exact layered.of_perm _ _ (by decide +kernel) (by decide +kernel)
  · exact (layered.get?_under others "user" (by decide +kernel)).trans (by decide +kernel)
  · exact (layered.get?_over others "mode" (by decide +kernel)).trans (by decide +kernel)

end ServerResources.PropertyBag
