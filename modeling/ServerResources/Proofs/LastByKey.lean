import Mathlib.Data.List.Basic

/-!
# The last item under its key

Events are about a place, requests about a key, and declarations have a name.  Where several
of them are listed under one of these, the last one counts.  `IsLastBy` says which one that
is; it is the one that a search from the end finds.
-/

namespace ServerResources

universe u v

variable {α : Type u} {κ : Type v}

/-- An item is listed, and no later one is listed under its key. -/
def IsLastBy (key : α → κ) (items : List α) (item : α) : Prop :=
  ∃ earlier later, items = earlier ++ item :: later ∧ ∀ other ∈ later, key other ≠ key item

variable {key : α → κ} {items more : List α} {item next : α} {wanted : κ}

theorem not_isLastBy_nil (key : α → κ) (item : α) : ¬ IsLastBy key [] item := by
  rintro ⟨earlier, later, split, -⟩
  simp at split

theorem isLastBy_snoc (key : α → κ) (items : List α) (item : α) :
    IsLastBy key (items ++ [item]) item :=
  ⟨items, [], rfl, by simp⟩

namespace IsLastBy

theorem mem (last : IsLastBy key items item) : item ∈ items := by
  rcases last with ⟨earlier, later, rfl, -⟩
  exact List.mem_append_right _ List.mem_cons_self

/-- What is listed later under other keys does not matter. -/
theorem append (last : IsLastBy key items item)
    (elsewhere : ∀ other ∈ more, key other ≠ key item) : IsLastBy key (items ++ more) item := by
  rcases last with ⟨earlier, later, rfl, others⟩
  refine ⟨earlier, later ++ more, by simp, ?_⟩
  intro other member
  rcases List.mem_append.mp member with before | after
  · exact others other before
  · exact elsewhere other after

theorem snoc (last : IsLastBy key items item) (elsewhere : key next ≠ key item) :
    IsLastBy key (items ++ [next]) item := by
  apply last.append
  intro other member
  rw [List.mem_singleton.mp member]
  exact elsewhere

end IsLastBy

/-- A further item is the last one under its own key and changes nothing for other keys. -/
theorem isLastBy_snoc_iff (key : α → κ) (items : List α) (next item : α) :
    IsLastBy key (items ++ [next]) item ↔
      item = next ∨ key next ≠ key item ∧ IsLastBy key items item := by
  constructor
  · rintro ⟨earlier, later, split, others⟩
    rcases List.eq_nil_or_concat later with rfl | ⟨front, last, rfl⟩
    · exact .inl (List.cons.inj (List.append_inj' split rfl).2).1.symm
    · have regrouped : items ++ [next] = (earlier ++ item :: front) ++ [last] := by
        simpa using split
      obtain ⟨same, tail⟩ := List.append_inj' regrouped rfl
      cases tail
      refine .inr ⟨others next (by simp), earlier, front, same, ?_⟩
      intro other member
      exact others other (by simp [member])
  · rintro (rfl | ⟨different, last⟩)
    · exact isLastBy_snoc key items item
    · exact last.snoc different

/-! ## Searching from the end -/

variable [DecidableEq κ]

theorem find?_reverse_eq_some_iff :
    (items.reverse.find? fun other => key other = wanted) = some item ↔
      IsLastBy key items item ∧ key item = wanted := by
  rw [List.find?_eq_some_iff_append]
  constructor
  · rintro ⟨named, later, earlier, split, others⟩
    have same : key item = wanted := of_decide_eq_true named
    refine ⟨⟨earlier.reverse, later.reverse, ?_, ?_⟩, same⟩
    · simpa using congrArg List.reverse split
    · intro other member
      rw [same]
      simpa using others other (List.mem_reverse.mp member)
  · rintro ⟨⟨earlier, later, rfl, others⟩, rfl⟩
    refine ⟨decide_eq_true rfl, later.reverse, earlier.reverse, by simp, ?_⟩
    intro other member
    simpa using others other (List.mem_reverse.mp member)

/-- Every key of an item has a last item. -/
theorem exists_isLastBy (listed : wanted ∈ items.map key) :
    ∃ item, IsLastBy key items item ∧ key item = wanted := by
  rcases List.mem_map.mp listed with ⟨item, member, keyed⟩
  have some : (items.reverse.find? fun other => key other = wanted).isSome = true := by
    rw [List.find?_isSome]
    exact ⟨item, List.mem_reverse.mpr member, decide_eq_true keyed⟩
  rcases Option.isSome_iff_exists.mp some with ⟨last, found⟩
  exact ⟨last, find?_reverse_eq_some_iff.mp found⟩

end ServerResources
