import Mathlib.Data.List.Nodup
import ServerResources.Proofs.Lookup.Finding

/-!
# Stability of lookups

Definitions that are added behind others do not take anything away from them: what was
found before is found still, at its place, and only what was not found is looked for among
the new ones.

Usually the order decides which of several definitions is found.  Where no two definitions
have the same interface and the same class there is nothing to decide once a class is
given, so such lookups do not depend on the order.
-/

namespace ServerResources.Lookup

variable {ρ : Type} [Configured ρ] {interface : String} {implementation : Option String}

theorem find_of_split {before after : List ρ} {entity : ρ}
    (first : ∀ other ∈ before, fits interface implementation other = false)
    (fitting : fits interface implementation entity = true) :
    find (some (before ++ entity :: after)) (some interface) implementation =
      .ok (some ⟨before.length, entity⟩) := by
  rw [find_of_ne_nil (by simp), firstFrom_append 0 _ first, firstFrom, if_pos fitting,
    Nat.zero_add]

theorem find_of_unfitting {entities : List ρ} (nonempty : entities ≠ [])
    (unfitting : ∀ entity ∈ entities, fits interface implementation entity = false) :
    find (some entities) (some interface) implementation =
      .error (.notFound interface implementation) := by
  have passed := firstFrom_append 0 [] unfitting
  rw [List.append_nil, firstFrom] at passed
  rw [find_of_ne_nil nonempty, passed]

/-! ## Adding definitions -/

/-- The same definition, with further ones in front of it. -/
def Found.shift (count : Nat) (found : Found ρ) : Found ρ :=
  ⟨count + found.position, found.entity⟩

/-- Among definitions that do not fit and further ones, only the further ones count. -/
theorem find_append_of_unfitting {entities more : List ρ} (nonempty : more ≠ [])
    (unfitting : ∀ entity ∈ entities, fits interface implementation entity = false) :
    find (some (entities ++ more)) (some interface) implementation =
      (find (some more) (some interface) implementation).map
        (Option.map (Found.shift entities.length)) := by
  rcases exists_first interface implementation more with
    ⟨before, entity, after, rfl, first, fitting⟩ | moreUnfitting
  · have passed : ∀ other ∈ entities ++ before, fits interface implementation other = false :=
      List.forall_mem_append.mpr ⟨unfitting, first⟩
    rw [find_of_split first fitting, ← List.append_assoc, find_of_split passed fitting,
      List.length_append]
    rfl
  · rw [find_of_unfitting nonempty moreUnfitting,
      find_of_unfitting (List.append_ne_nil_of_right_ne_nil _ nonempty)
        (List.forall_mem_append.mpr ⟨unfitting, moreUnfitting⟩)]
    rfl

/-- What becomes of a lookup when definitions are added at the end. -/
structure StaysFirst (entities more : List ρ) (interface implementation : Option String) :
    Prop where
  /-- The definition that was found is found still.  It is the one at its place, and it is
  the first that fits. -/
  found : ∀ position entity,
    find (some entities) interface implementation = .ok (some ⟨position, entity⟩) →
      find (some (entities ++ more)) interface implementation =
          .ok (some ⟨position, entity⟩) ∧
        entities[position]? = some entity ∧
        ∃ wanted, interface = some wanted ∧ fits wanted implementation entity = true ∧
          ∀ earlier other, earlier < position → entities[earlier]? = some other →
            fits wanted implementation other = false
  /-- If none was found, the added ones are looked through. -/
  notFound : ∀ wanted class?,
    find (some entities) interface implementation = .error (.notFound wanted class?) →
      more ≠ [] →
        find (some (entities ++ more)) interface implementation =
          (find (some more) interface implementation).map
            (Option.map (Found.shift entities.length))

theorem staysFirst (entities more : List ρ) (interface implementation : Option String) :
    StaysFirst entities more interface implementation := by
  cases interface with
  | none =>
      constructor
      · intro position entity answer
        cases answer
      · intro wanted class? answer
        cases answer
  | some interface =>
      have finds := find_finds interface implementation entities
      constructor
      case found =>
        intro position entity answer
        rw [answer] at finds
        cases finds with
        | found before after _ split first fitting =>
            subst split
            refine ⟨?_, by simp, interface, rfl, fitting, ?_⟩
            · rw [List.append_assoc, List.cons_append]
              exact find_of_split first fitting
            · intro earlier other sooner there
              rw [List.getElem?_append_left sooner] at there
              exact first other (List.mem_of_getElem? there)
      case notFound =>
        intro wanted class? answer nonempty
        rw [answer] at finds
        cases finds with
        | notFound _ unfitting => exact find_append_of_unfitting nonempty unfitting

/-! ## Reordering definitions -/

/-- What a definition is looked up by. -/
def keyOf (entity : ρ) : String × Option String :=
  (Configured.interface entity, Configured.implementation entity)

/-- The definition that is found, wherever it is. -/
def sought (entities : Option (List ρ)) (interface implementation : Option String) :
    Except Fault (Option ρ) :=
  (find entities interface implementation).map (Option.map Found.entity)

theorem keyOf_of_fits {class? : String} {entity : ρ}
    (fitting : fits interface (some class?) entity = true) :
    keyOf entity = (interface, some class?) := by
  obtain ⟨same, sameClass⟩ := (fits_some_iff interface class? entity).mp fitting
  rw [keyOf, same, sameClass]

theorem sought_of_perm {left right : List ρ} (distinct : (left.map keyOf).Nodup)
    (reordered : left.Perm right) (interface : Option String) (className : String) :
    sought (some left) interface (some className) =
      sought (some right) interface (some className) := by
  cases interface with
  | none => rfl
  | some interface =>
      rcases exists_first interface (some className) left with
        ⟨before, entity, after, split, first, fitting⟩ | unfitting
      · rcases exists_first interface (some className) right with
          ⟨rightBefore, other, rightAfter, rightSplit, rightFirst, otherFitting⟩ | unfitting
        · have member : entity ∈ left := by simp [split]
          have otherMember : other ∈ left := reordered.mem_iff.mpr (by simp [rightSplit])
          have same : entity = other :=
            List.inj_on_of_nodup_map distinct member otherMember
              ((keyOf_of_fits fitting).trans (keyOf_of_fits otherFitting).symm)
          rw [split, rightSplit, sought, sought, find_of_split first fitting,
            find_of_split rightFirst otherFitting, same]
          rfl
        · have member : entity ∈ right := reordered.mem_iff.mp (by simp [split])
          rw [unfitting entity member] at fitting
          cases fitting
      · have rightUnfitting : ∀ entity ∈ right,
            fits interface (some className) entity = false := by
          intro entity member
          exact unfitting entity (reordered.mem_iff.mpr member)
        by_cases empty : left = []
        · have rightEmpty : right = [] := List.perm_nil.mp (empty ▸ reordered.symm)
          rw [empty, rightEmpty]
        · have rightNonempty : right ≠ [] := by
            intro rightEmpty
            exact empty (List.perm_nil.mp (rightEmpty ▸ reordered))
          rw [sought, sought, find_of_unfitting empty unfitting,
            find_of_unfitting rightNonempty rightUnfitting]

/-- Existence does not depend on the order, whether definitions are distinct or not. -/
theorem has_of_perm {left right : List ρ} (reordered : left.Perm right)
    (interface implementation : Option String) :
    has (some left) interface implementation = has (some right) interface implementation := by
  cases interface with
  | none => rfl
  | some interface =>
      cases implementation with
      | none => rfl
      | some className =>
          apply congrArg Except.ok
          rw [Bool.eq_iff_iff, List.any_eq_true, List.any_eq_true]
          simp only [Option.getD_some, reordered.mem_iff]

/-- Neither do the classes of an interface. -/
theorem classes_of_perm {left right : List ρ} (reordered : left.Perm right)
    (interface : Option String) :
    classes (some left) interface = classes (some right) interface := by
  cases left with
  | nil => rw [List.perm_nil.mp reordered.symm]
  | cons first rest =>
      cases right with
      | nil => cases List.perm_nil.mp reordered
      | cons other others =>
          apply congrArg some
          apply Ascending.eq_of_mem_iff
          · exact Ascending.pairwise_ofList _
          · exact Ascending.pairwise_ofList _
          · intro name
            simp only [Ascending.mem_ofList, List.mem_filterMap, List.mem_filter,
              reordered.mem_iff]

/-- The confidential names are those of the definition that is found. -/
theorem confidential_eq_sought (entities : Option (List ρ)) (interface : String)
    (rest : List (Option String)) :
    confidential entities (some interface :: rest) =
      (sought entities (some interface) rest.head?.join).map fun entity =>
        entity.elim [] fun entity => Property.confidentialNames (Configured.properties entity) := by
  rw [confidential, sought]
  rcases find entities (some interface) rest.head?.join with fault | _ | found
  case error => rfl
  case ok.none => rfl
  case ok.some => rfl

/-- The answers about two orders of the same definitions. -/
structure SameAnswers (left right : List ρ) : Prop where
  /-- The same definition is found, or there is the same fault, once a class is given. -/
  find : ∀ interface className,
    (Lookup.find (some left) interface (some className)).map (Option.map Found.entity) =
      (Lookup.find (some right) interface (some className)).map (Option.map Found.entity)
  has : ∀ interface implementation,
    has (some left) interface implementation = has (some right) interface implementation
  classes : ∀ interface, classes (some left) interface = classes (some right) interface
  confidential : ∀ interface className rest,
    confidential (some left) (interface :: some className :: rest) =
      confidential (some right) (interface :: some className :: rest)

/-- A lookup is stable when definitions are added at the end, and once a class is given it
does not depend on the order of definitions with distinct keys. -/
theorem first_match_stable (entities : List ρ) :
    (∀ more interface implementation, StaysFirst entities more interface implementation) ∧
    ((entities.map fun entity =>
        (Configured.interface entity, Configured.implementation entity)).Nodup →
      ∀ reordered, entities.Perm reordered → SameAnswers entities reordered) := by
  constructor
  · exact staysFirst entities
  · intro distinct reordered same
    constructor
    case find => exact sought_of_perm distinct same
    case has => exact has_of_perm same
    case classes => exact classes_of_perm same
    case confidential =>
      intro interface className rest
      cases interface with
      | none => rfl
      | some interface =>
          rw [confidential_eq_sought, confidential_eq_sought]
          exact congrArg _ (sought_of_perm distinct same (some interface) className)

/-- Two queues, one of them without a class, and a topic. -/
def destinations : List AdminObject :=
  [ ⟨"jakarta.jms.Queue", none, []⟩,
    ⟨"jakarta.jms.Queue", some "queues.Queue",
      [⟨"password", some "secret", Property.defaultType, none, true⟩]⟩,
    ⟨"jakarta.jms.Topic", some "topics.Topic", []⟩ ]

/-- The class makes the difference: without one, the order of the queues decides. -/
theorem first_match_stable_destinations :
    confidential (some destinations.reverse) [some "jakarta.jms.Queue", some "queues.Queue"] =
      .ok ["password"] ∧
    find (some (destinations ++ destinations)) (some "jakarta.jms.Topic") none =
      .ok (some ⟨2, ⟨"jakarta.jms.Topic", some "topics.Topic", []⟩⟩) ∧
    confidential (some destinations) [some "jakarta.jms.Queue"] = .ok [] ∧
    confidential (some destinations.reverse) [some "jakarta.jms.Queue"] = .ok ["password"] := by
  obtain ⟨stays, reorders⟩ := first_match_stable destinations
  refine ⟨?_, ?_, rfl, rfl⟩
  · have same := reorders (by decide) destinations.reverse destinations.reverse_perm.symm
    exact (same.confidential _ "queues.Queue" []).symm.trans rfl
  · exact ((stays destinations (some "jakarta.jms.Topic") none).found 2 _ rfl).1

end ServerResources.Lookup
