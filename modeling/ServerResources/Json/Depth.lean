import ServerResources.Json

/-!
# Depth of JSON values

How many values of a JSON value lie inside one another, the outermost and the
innermost included.
-/

namespace ServerResources.Json

mutual

/-- The depth of a value; a value without parts has depth one. -/
def depth : Json → Nat
  | .array items => itemsDepth items + 1
  | .object fields => fieldsDepth fields + 1
  | _ => 1

/-- The greatest depth of some items. -/
def itemsDepth : List Json → Nat
  | [] => 0
  | item :: rest => max (depth item) (itemsDepth rest)

/-- The greatest depth of some fields. -/
def fieldsDepth : List (String × Json) → Nat
  | [] => 0
  | (_, value) :: rest => max (depth value) (fieldsDepth rest)

end

theorem depth_pos (value : Json) : 0 < value.depth := by
  cases value <;> simp [depth]

theorem depth_le_itemsDepth {item : Json} {items : List Json} (member : item ∈ items) :
    item.depth ≤ itemsDepth items := by
  induction items with
  | nil => simp at member
  | cons head rest ih =>
      rcases List.mem_cons.mp member with rfl | later
      · exact Nat.le_max_left _ _
      · exact Nat.le_trans (ih later) (Nat.le_max_right _ _)

/-- The items of an array are less deep than the array. -/
theorem depth_lt_of_mem {item : Json} {items : List Json} (member : item ∈ items) :
    item.depth < (Json.array items).depth := by
  have bound := depth_le_itemsDepth member
  simp only [depth]
  omega

end ServerResources.Json
