/-!
# Ascending texts

The distinct texts of a list in ascending order by code point.  A sorted list
without repetition is how the library shows a set.
-/

namespace ServerResources.Ascending

/-- Adds a text to an ascending list, unless it is there. -/
def insert (text : String) : List String → List String
  | [] => [text]
  | head :: rest =>
      if text < head then text :: head :: rest
      else if text = head then head :: rest
      else head :: insert text rest

/-- The distinct texts of a list in ascending order. -/
def ofList (texts : List String) : List String :=
  texts.foldr insert []

theorem mem_insert (text other : String) (texts : List String) :
    other ∈ insert text texts ↔ other = text ∨ other ∈ texts := by
  induction texts with
  | nil => simp [insert]
  | cons head rest ih =>
      by_cases before : text < head
      · simp only [insert, before, if_true, List.mem_cons]
      · by_cases same : text = head
        · subst same
          simp only [insert, before, if_true, if_false, List.mem_cons, or_self_left]
        · simp only [insert, before, same, if_false, List.mem_cons, ih]
          constructor
          · rintro (equal | equal | found)
            · exact Or.inr (Or.inl equal)
            · exact Or.inl equal
            · exact Or.inr (Or.inr found)
          · rintro (equal | equal | found)
            · exact Or.inr (Or.inl equal)
            · exact Or.inl equal
            · exact Or.inr (Or.inr found)

/-- The list has the same members as the one that it was made from. -/
theorem mem_ofList (text : String) (texts : List String) :
    text ∈ ofList texts ↔ text ∈ texts := by
  induction texts with
  | nil => simp [ofList]
  | cons head rest ih =>
      simp only [ofList, List.foldr_cons] at ih ⊢
      rw [mem_insert, ih, List.mem_cons]

theorem pairwise_insert (text : String) {texts : List String}
    (ascending : texts.Pairwise (· < ·)) : (insert text texts).Pairwise (· < ·) := by
  induction texts with
  | nil => simp [insert]
  | cons head rest ih =>
      obtain ⟨headBefore, restAscending⟩ := List.pairwise_cons.mp ascending
      by_cases before : text < head
      · simp only [insert, before, if_true]
        refine List.pairwise_cons.mpr ⟨?_, ascending⟩
        intro other member
        rcases List.mem_cons.mp member with equal | found
        · exact equal ▸ before
        · exact String.lt_trans before (headBefore other found)
      · by_cases same : text = head
        · subst same
          simpa only [insert, before, if_true, if_false] using ascending
        · simp only [insert, before, same, if_false]
          refine List.pairwise_cons.mpr ⟨?_, ih restAscending⟩
          intro other member
          rcases (mem_insert text other rest).mp member with equal | found
          · subst equal
            have atMost : head ≤ other := String.not_lt.mp before
            by_cases below : head < other
            · exact below
            · exact (same (String.le_antisymm (String.not_lt.mp below) atMost)).elim
          · exact headBefore other found

/-- The list is strictly ascending. -/
theorem pairwise_ofList (texts : List String) : (ofList texts).Pairwise (· < ·) := by
  induction texts with
  | nil => simp [ofList]
  | cons head rest ih => exact pairwise_insert head ih

theorem nodup_of_ascending {texts : List String} (ascending : texts.Pairwise (· < ·)) :
    texts.Nodup :=
  ascending.imp fun {left right} (before : left < right) (equal : left = right) =>
    String.lt_irrefl right (equal ▸ before)

theorem nodup_ofList (texts : List String) : (ofList texts).Nodup :=
  nodup_of_ascending (pairwise_ofList texts)

/-- An ascending list is determined by its members. -/
theorem eq_of_mem_iff {left right : List String} (leftAscending : left.Pairwise (· < ·))
    (rightAscending : right.Pairwise (· < ·)) (same : ∀ text, text ∈ left ↔ text ∈ right) :
    left = right := by
  have leftDistinct := nodup_of_ascending leftAscending
  have rightDistinct := nodup_of_ascending rightAscending
  have reordered := (List.perm_ext_iff_of_nodup leftDistinct rightDistinct).mpr same
  refine reordered.eq_of_pairwise ?_ leftAscending rightAscending
  intro earlier later _ _ before after
  exact (String.lt_asymm before after).elim

end ServerResources.Ascending
