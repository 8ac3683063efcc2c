import ServerResources.Proofs.Query.Agreement

/-!
# Missing arguments

A lookup checks its keys before it looks at the definitions: without an interface it is
refused, whatever there is to look through, and once the keys are there a collection
without definitions is no data and no fault.  The questions about a connector check in the
same way that there is a connector.

The classes of an interface are the exception.  Nobody checks that there is an interface:
a missing one is taken for an interface that no definition implements.
-/

namespace ServerResources

namespace Lookup

variable {ρ : Type} [Configured ρ] (entities : Option (List ρ))

theorem find_eq_missing_iff (interface implementation : Option String)
    (argument : MissingArgument) :
    find entities interface implementation = .error (.missing argument) ↔
      interface = none ∧ argument = .interface := by
  cases interface with
  | none => simp [find, eq_comm]
  | some interface =>
      have finds : Finds interface implementation (entities.getD [])
          (find entities (some interface) implementation) :=
        find_finds interface implementation (entities.getD [])
      generalize find entities (some interface) implementation = answer at finds ⊢
      cases finds <;> simp

theorem has_eq_missing_iff (interface implementation : Option String)
    (argument : MissingArgument) :
    has entities interface implementation = .error (.missing argument) ↔
      (interface = none ∨ implementation = none) ∧ argument = .interfaceAndClass := by
  cases interface <;> cases implementation <;> simp [has, eq_comm]

/-- Only the first key has to be there.  There may be none at all. -/
theorem confidential_eq_missing_iff (keys : List (Option String))
    (argument : MissingArgument) :
    confidential entities keys = .error (.missing argument) ↔
      keys.head?.join = none ∧ argument = .lookupKey := by
  rcases keys with _ | ⟨_ | interface, rest⟩
  case nil => simp [confidential, eq_comm]
  case cons.none => simp [confidential, eq_comm]
  case cons.some =>
    have refused := find_eq_missing_iff entities (some interface) rest.head?.join argument
    rw [confidential]
    generalize find entities (some interface) rest.head?.join = answer at refused ⊢
    rcases answer with fault | _ | found
    case error => simpa [bind, Except.bind] using refused
    case ok.none => simp [bind, Except.bind, pure, Except.pure]
    case ok.some => simp [bind, Except.bind, pure, Except.pure]

/-- How a collection of definitions answers when something is missing. -/
structure ChecksKeys : Prop where
  /-- Finding a definition needs an interface. -/
  find : ∀ interface implementation argument,
    find entities interface implementation = .error (.missing argument) ↔
      interface = none ∧ argument = .interface
  /-- Existence needs an interface and a class. -/
  has : ∀ interface implementation argument,
    has entities interface implementation = .error (.missing argument) ↔
      (interface = none ∨ implementation = none) ∧ argument = .interfaceAndClass
  /-- Confidential names need a first key. -/
  confidential : ∀ keys argument,
    confidential entities keys = .error (.missing argument) ↔
      keys.head?.join = none ∧ argument = .lookupKey
  /-- Without definitions, no question with all its keys is at fault. -/
  noData : entities.getD [] = [] → ∀ interface implementation rest,
    Lookup.find entities (some interface) implementation = .ok none ∧
    Lookup.classes entities (some interface) = none ∧
    (∀ name, Lookup.has entities (some interface) (some name) = .ok false) ∧
    Lookup.confidential entities (some interface :: rest) = .ok []
  /-- Without an interface there are no classes, as if nothing implemented it. -/
  classes : Lookup.classes entities none =
    if (entities.getD []).isEmpty then none else some []

theorem checksKeys : ChecksKeys entities where
  find := find_eq_missing_iff entities
  has := has_eq_missing_iff entities
  confidential := confidential_eq_missing_iff entities
  noData := by
    intro empty interface implementation rest
    refine ⟨?_, ?_, ?_, ?_⟩
    · rw [Lookup.find, empty]
    · rw [Lookup.classes, empty]
    · intro name
      rw [Lookup.has, empty]
      rfl
    · rw [Lookup.confidential, Lookup.find, empty]
      rfl
  classes := by
    rw [Lookup.classes]
    cases entities.getD [] with
    | nil => rfl
    | cons entity rest =>
        have implementing : (entity :: rest).filter
            (fun entity => some (Configured.interface entity) = none) = [] :=
          List.filter_eq_nil_iff.mpr (by simp)
        simp only [implementing]
        rfl

end Lookup

namespace Query

/-- The connector is the first thing that is checked. -/
theorem adminObject_eq_missing_iff (connector? : Option Connector)
    (interface implementation : Option String) (argument : MissingArgument) :
    adminObject connector? interface implementation = .error (.missing argument) ↔
      (connector? = none ∧ argument = .connector) ∨
        (connector? ≠ none ∧ interface = none ∧ argument = .interface) := by
  cases connector? with
  | none => simp [adminObject, subject, bind, Except.bind, eq_comm]
  | some connector =>
      rw [adminObject_eq_find]
      have refused := Lookup.find_eq_missing_iff (some connector.adminObjects) interface
        implementation argument
      generalize Lookup.find (some connector.adminObjects) interface implementation =
        answer at refused ⊢
      cases answer with
      | error fault => simpa [Except.map] using refused
      | ok found => simpa [Except.map] using refused

theorem has_eq_missing_iff (connector? : Option Connector)
    (interface implementation : Option String) (argument : MissingArgument) :
    has connector? interface implementation = .error (.missing argument) ↔
      (connector? = none ∧ argument = .connector) ∨
        (connector? ≠ none ∧ (interface = none ∨ implementation = none) ∧
          argument = .interfaceAndClass) := by
  cases connector? with
  | none => simp [has, subject, bind, Except.bind, eq_comm]
  | some connector =>
      have refused := Lookup.has_eq_missing_iff (some connector.adminObjects) interface
        implementation argument
      simpa [has, subject, bind, Except.bind] using refused

/-- Here the keys come before the connector. -/
theorem confidential_eq_missing_iff (connector? : Option Connector)
    (keys : List (Option String)) (argument : MissingArgument) :
    confidential connector? keys = .error (.missing argument) ↔
      (keys.head?.join = none ∧ argument = .adminObjectKey) ∨
        (keys.head?.join ≠ none ∧ connector? = none ∧ argument = .connector) := by
  rcases keys with _ | ⟨_ | interface, rest⟩
  case nil => simp [confidential, eq_comm]
  case cons.none => simp [confidential, eq_comm]
  case cons.some =>
    cases connector? with
    | none => simp [confidential, subject, bind, Except.bind, eq_comm]
    | some connector =>
        have refused := Lookup.confidential_eq_missing_iff (some connector.adminObjects)
          (some interface :: rest) argument
        simpa [confidential, subject, bind, Except.bind] using refused

/-- How questions about a connector answer when something is missing. -/
structure ChecksArguments (introspector : Introspector) (connector? : Option Connector) :
    Prop where
  adminObject : ∀ interface implementation argument,
    adminObject connector? interface implementation = .error (.missing argument) ↔
      (connector? = none ∧ argument = .connector) ∨
        (connector? ≠ none ∧ interface = none ∧ argument = .interface)
  /-- Where there is no object to be found, the introspector is not asked. -/
  beanProperties : ∀ interface implementation archive calls fault,
    Query.adminObject connector? interface implementation = .error fault →
      (beanProperties introspector connector? interface implementation archive).run calls =
        (.error fault, calls)
  has : ∀ interface implementation argument,
    has connector? interface implementation = .error (.missing argument) ↔
      (connector? = none ∧ argument = .connector) ∨
        (connector? ≠ none ∧ (interface = none ∨ implementation = none) ∧
          argument = .interfaceAndClass)
  confidential : ∀ keys argument,
    confidential connector? keys = .error (.missing argument) ↔
      (keys.head?.join = none ∧ argument = .adminObjectKey) ∨
        (keys.head?.join ≠ none ∧ connector? = none ∧ argument = .connector)
  /-- Without objects, no question with all its arguments is at fault. -/
  noData : ∀ connector, connector? = some connector → connector.adminObjects = [] →
    ∀ interface implementation rest,
      Query.adminObject connector? (some interface) implementation = .ok none ∧
      (∀ archive calls,
        (Query.beanProperties introspector connector? (some interface) implementation
          archive).run calls = (.ok none, calls)) ∧
      Query.classes connector? (some interface) = .ok none ∧
      (∀ name, Query.has connector? (some interface) (some name) = .ok false) ∧
      Query.confidential connector? (some interface :: rest) = .ok []
  /-- The classes need a connector.  They do not need an interface. -/
  classes : Query.classes connector? none =
    match connector? with
    | none => .error (.missing .connector)
    | some connector => .ok (if connector.adminObjects.isEmpty then none else some [])

theorem checksArguments (introspector : Introspector) (connector? : Option Connector) :
    ChecksArguments introspector connector? where
  adminObject := adminObject_eq_missing_iff connector?
  beanProperties := by
    intro interface implementation archive calls fault missing
    cases connector? with
    | none =>
        cases missing
        rfl
    | some connector => rw [run_beanProperties, missing]
  has := has_eq_missing_iff connector?
  confidential := confidential_eq_missing_iff connector?
  noData := by
    rintro ⟨name, objects⟩ rfl empty interface implementation rest
    cases empty
    exact ⟨rfl, fun _ _ => rfl, rfl, fun _ => rfl, rfl⟩
  classes := by
    cases connector? with
    | none => rfl
    | some connector =>
        exact congrArg Except.ok (Lookup.checksKeys (some connector.adminObjects)).classes

/-- Every lookup that takes an interface, except that of classes, is refused exactly if
one of its arguments is missing, for any collection of definitions; so are the questions
about a connector.  Without definitions there is no fault. -/
theorem missing_arguments_refused {ρ : Type} [Configured ρ] (entities : Option (List ρ))
    (introspector : Introspector) (connector? : Option Connector) :
    Lookup.ChecksKeys entities ∧ ChecksArguments introspector connector? :=
  ⟨Lookup.checksKeys entities, checksArguments introspector connector?⟩

/-- The classes of no interface are none, where every other question is refused. -/
theorem classes_of_missing_interface :
    Lookup.classes (some queues.adminObjects) none = some [] ∧
    classes (some queues) none = .ok (some []) ∧
    Lookup.find (some queues.adminObjects) none none = .error (.missing .interface) ∧
    ¬ ∀ connector?, ∃ argument, classes connector? none = .error (.missing argument) := by
  refine ⟨rfl, rfl, rfl, ?_⟩
  intro refused
  rcases refused (some queues) with ⟨argument, missing⟩
  cases missing

end Query
end ServerResources
