import ServerResources.Lookup

/-!
# What lookups find

The questions about a collection of definitions are asked separately, but all of them
come down to which definitions fit an interface and a class.  `Finds` says what looking
for a definition comes to; the other questions are answered by equivalences.
-/

namespace ServerResources.Lookup

variable {ρ : Type} [Configured ρ] {interface : String} {implementation : Option String}

theorem fits_iff (interface : String) (implementation : Option String) (entity : ρ) :
    fits interface implementation entity = true ↔
      Configured.interface entity = interface ∧
        (implementation = none ∨ Configured.implementation entity = implementation) := by
  simp [fits]

/-- Without a class, only the interface counts. -/
theorem fits_none_iff (interface : String) (entity : ρ) :
    fits interface none entity = true ↔ Configured.interface entity = interface := by
  simp [fits_iff]

theorem fits_some_iff (interface implementation : String) (entity : ρ) :
    fits interface (some implementation) entity = true ↔
      Configured.interface entity = interface ∧
        Configured.implementation entity = some implementation := by
  simp [fits_iff]

/-! ## The first definition that fits -/

/-- What looking for a definition comes to, given an interface. -/
inductive Finds (interface : String) (implementation : Option String) (entities : List ρ) :
    Except Fault (Option (Found ρ)) → Prop where
  | nothing (empty : entities = []) :
      Finds interface implementation entities (.ok none)
  | found (before after : List ρ) (entity : ρ) (split : entities = before ++ entity :: after)
      (first : ∀ other ∈ before, fits interface implementation other = false)
      (fitting : fits interface implementation entity = true) :
      Finds interface implementation entities (.ok (some ⟨before.length, entity⟩))
  | notFound (nonempty : entities ≠ [])
      (unfitting : ∀ entity ∈ entities, fits interface implementation entity = false) :
      Finds interface implementation entities (.error (.notFound interface implementation))

/-- Definitions that do not fit are passed over. -/
theorem firstFrom_append (position : Nat) {before : List ρ} (rest : List ρ)
    (unfitting : ∀ entity ∈ before, fits interface implementation entity = false) :
    firstFrom interface implementation position (before ++ rest) =
      firstFrom interface implementation (position + before.length) rest := by
  induction before generalizing position with
  | nil => rfl
  | cons entity others ih =>
      have away := unfitting entity List.mem_cons_self
      have later := ih (position + 1) fun other member =>
        unfitting other (List.mem_cons_of_mem entity member)
      rw [List.cons_append, firstFrom, away, if_neg Bool.false_ne_true, later,
        List.length_cons]
      congr 1
      omega

/-- A collection has a first definition that fits, or none fits. -/
theorem exists_first (interface : String) (implementation : Option String)
    (entities : List ρ) :
    (∃ before entity after, entities = before ++ entity :: after ∧
      (∀ other ∈ before, fits interface implementation other = false) ∧
      fits interface implementation entity = true) ∨
    ∀ entity ∈ entities, fits interface implementation entity = false := by
  induction entities with
  | nil => simp
  | cons entity rest ih =>
      cases fitting : fits interface implementation entity with
      | true => exact .inl ⟨[], entity, rest, rfl, by simp, fitting⟩
      | false =>
          rcases ih with ⟨before, other, after, rfl, first, otherFits⟩ | unfitting
          · refine .inl ⟨entity :: before, other, after, rfl, ?_, otherFits⟩
            exact List.forall_mem_cons.mpr ⟨fitting, first⟩
          · exact .inr (List.forall_mem_cons.mpr ⟨fitting, unfitting⟩)

theorem find_of_ne_nil {entities : List ρ} (nonempty : entities ≠ []) (interface : String)
    (implementation : Option String) :
    find (some entities) (some interface) implementation =
      match firstFrom interface implementation 0 entities with
      | some found => .ok (some found)
      | none => .error (.notFound interface implementation) := by
  cases entities with
  | nil => exact (nonempty rfl).elim
  | cons entity rest => rfl

theorem find_finds (interface : String) (implementation : Option String)
    (entities : List ρ) :
    Finds interface implementation entities
      (find (some entities) (some interface) implementation) := by
  by_cases empty : entities = []
  · subst empty
    exact .nothing rfl
  · rw [find_of_ne_nil empty]
    rcases exists_first interface implementation entities with
      ⟨before, entity, after, rfl, first, fitting⟩ | unfitting
    · rw [firstFrom_append 0 _ first, firstFrom, if_pos fitting, Nat.zero_add]
      exact .found before after entity rfl first fitting
    · have none_left := firstFrom_append 0 [] unfitting
      rw [List.append_nil, firstFrom] at none_left
      rw [none_left]
      exact .notFound empty unfitting

/-! ## Existence and classes -/

/-- A definition of exactly this interface and class is among the definitions. -/
theorem has_eq_ok_true_iff (entities : Option (List ρ)) (interface implementation : String) :
    has entities (some interface) (some implementation) = .ok true ↔
      ∃ entity ∈ entities.getD [], fits interface (some implementation) entity = true := by
  rw [has, Except.ok.injEq, List.any_eq_true]

/-- The classes of an interface are those of the definitions that fit it. -/
theorem classes_of_ne_nil {entities : List ρ} (nonempty : entities ≠ []) (interface : String) :
    ∃ names, classes (some entities) (some interface) = some names ∧
      names.Pairwise (· < ·) ∧
      ∀ name, name ∈ names ↔
        ∃ entity ∈ entities, fits interface (some name) entity = true := by
  cases entities with
  | nil => exact (nonempty rfl).elim
  | cons entity rest =>
      refine ⟨_, rfl, Ascending.pairwise_ofList _, ?_⟩
      intro name
      simp only [Ascending.mem_ofList, List.mem_filterMap, List.mem_filter, Option.some.injEq,
        decide_eq_true_eq, fits_some_iff, and_assoc]

end ServerResources.Lookup
