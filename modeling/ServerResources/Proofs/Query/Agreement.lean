import ServerResources.Proofs.Bean.Loading
import ServerResources.Proofs.Lookup.Finding
import ServerResources.Proofs.Query.Confidentiality

/-!
# Questions that agree

A connector can be asked for an object, whether there is one, for the classes and the
interfaces of its objects, and for the properties of an object.  Each question goes
through the objects on its own.  Their answers agree: all of them follow from which
objects fit, and a connector without objects has nothing to say to any of them.
-/

namespace ServerResources

/-- An introspector knows classes.  It does not say of a resource that there is none. -/
def Introspector.KnowsClasses (introspector : Introspector) : Prop :=
  ∀ className known archive interface implementation,
    introspector.defaults className known archive ≠ .error (.notFound interface implementation)

/-- An introspector faults for what is wrong with a class or with its module, and for nothing
else. -/
def Introspector.FaultsForClasses (introspector : Introspector) : Prop :=
  ∀ className known archive fault,
    introspector.defaults className known archive = .error fault →
      (∃ failure, fault = .introspection failure) ∨ ∃ module, fault = .relativeModule module

namespace Introspector

theorem faultsForClasses_ofTable (table : List (String × PartialBag)) :
    (ofTable table).FaultsForClasses := by
  intro className known archive fault failed
  cases failed

theorem faultsForClasses_ofClasses (classes : Bean.Classes) :
    (ofLoader (.ofClasses classes)).FaultsForClasses := by
  intro className known archive fault failed
  rcases fault_of_readBean (readBean_of_defaults_eq_error failed) with unloaded | ⟨-, failure⟩
  · rw [Bean.Loader.ofClasses] at unloaded
    split at unloaded
    next => cases unloaded
    next =>
      cases unloaded
      exact .inl ⟨_, rfl⟩
  · exact .inl failure

theorem faultsForClasses_ofModules (modules : Bean.Modules) :
    (ofLoader (.ofModules modules)).FaultsForClasses := by
  intro className known archive fault failed
  have cause := loadingFault_of_defaults failed
  rw [Bean.LoadingFault] at cause
  split at cause
  next =>
    rcases cause with ⟨module, name, -, equal⟩
    exact .inr ⟨module, equal⟩
  next => exact .inl cause

theorem FaultsForClasses.knowsClasses {introspector : Introspector}
    (faults : introspector.FaultsForClasses) : introspector.KnowsClasses := by
  intro className known archive interface implementation missing
  rcases faults _ _ _ _ missing with ⟨failure, equal⟩ | ⟨module, equal⟩
  · cases equal
  · cases equal

theorem knowsClasses_ofTable (table : List (String × PartialBag)) :
    (ofTable table).KnowsClasses :=
  (faultsForClasses_ofTable table).knowsClasses

theorem knowsClasses_ofClasses (classes : Bean.Classes) :
    (ofLoader (.ofClasses classes)).KnowsClasses :=
  (faultsForClasses_ofClasses classes).knowsClasses

theorem knowsClasses_ofModules (modules : Bean.Modules) :
    (ofLoader (.ofModules modules)).KnowsClasses :=
  (faultsForClasses_ofModules modules).knowsClasses

end Introspector

namespace Query

variable {introspector : Introspector} {connector : Connector} {interface : String}
  {implementation : Option String}

/-! ## Administered objects -/

/-- What asking for an administered object comes to, given an interface. -/
theorem adminObject_cases (connector : Connector) (interface : String)
    (implementation : Option String) :
    (connector.adminObjects = [] ∧
      adminObject (some connector) (some interface) implementation = .ok none) ∨
    (∃ object ∈ connector.adminObjects, Lookup.fits interface implementation object = true ∧
      adminObject (some connector) (some interface) implementation = .ok (some object)) ∨
    ((connector.adminObjects ≠ [] ∧
        ∀ object ∈ connector.adminObjects,
          Lookup.fits interface implementation object = false) ∧
      adminObject (some connector) (some interface) implementation =
        .error (.notFound interface implementation)) := by
  rw [adminObject_eq_find]
  have finds := Lookup.find_finds interface implementation connector.adminObjects
  generalize Lookup.find (some connector.adminObjects) (some interface) implementation =
    result at finds ⊢
  cases finds with
  | nothing empty => exact .inl ⟨empty, rfl⟩
  | found before after object split first fitting =>
      refine .inr (.inl ⟨object, ?_, fitting, rfl⟩)
      rw [split]
      exact List.mem_append_right _ List.mem_cons_self
  | notFound nonempty unfitting => exact .inr (.inr ⟨⟨nonempty, unfitting⟩, rfl⟩)

theorem fits_of_adminObject {object : AdminObject}
    (found : adminObject (some connector) (some interface) implementation = .ok (some object)) :
    object ∈ connector.adminObjects ∧ Lookup.fits interface implementation object = true := by
  rcases adminObject_cases connector interface implementation with
    ⟨-, nothing⟩ | ⟨other, member, fitting, answer⟩ | ⟨-, missing⟩
  · rw [nothing] at found
    cases found
  · rw [answer] at found
    cases found
    exact ⟨member, fitting⟩
  · rw [missing] at found
    cases found

/-- An object is found exactly if one fits. -/
theorem exists_adminObject_iff (connector : Connector) (interface : String)
    (implementation : Option String) :
    (∃ object, adminObject (some connector) (some interface) implementation =
        .ok (some object)) ↔
      ∃ object ∈ connector.adminObjects,
        Lookup.fits interface implementation object = true := by
  constructor
  · rintro ⟨object, found⟩
    exact ⟨object, fits_of_adminObject found⟩
  · rintro ⟨object, member, fitting⟩
    rcases adminObject_cases connector interface implementation with
      ⟨empty, -⟩ | ⟨other, -, -, answer⟩ | ⟨⟨-, unfitting⟩, -⟩
    · rw [empty] at member
      cases member
    · exact ⟨other, answer⟩
    · rw [unfitting object member] at fitting
      cases fitting

/-- Where there are objects, one is found or the fault is that none is. -/
theorem found_or_notFound (nonempty : connector.adminObjects ≠ []) (interface : String)
    (implementation : Option String) :
    (∃ object, adminObject (some connector) (some interface) implementation =
        .ok (some object)) ∨
      adminObject (some connector) (some interface) implementation =
        .error (.notFound interface implementation) := by
  rcases adminObject_cases connector interface implementation with
    ⟨empty, -⟩ | ⟨object, -, -, answer⟩ | ⟨-, missing⟩
  · exact (nonempty empty).elim
  · exact .inl ⟨object, answer⟩
  · exact .inr missing

/-! ## The other questions -/

theorem has_eq (connector : Connector) (interface implementation : String) :
    has (some connector) (some interface) (some implementation) =
      .ok (connector.adminObjects.any (Lookup.fits interface (some implementation))) :=
  rfl

theorem has_eq_ok_true_iff (connector : Connector) (interface implementation : String) :
    has (some connector) (some interface) (some implementation) = .ok true ↔
      ∃ object, adminObject (some connector) (some interface) (some implementation) =
        .ok (some object) :=
  (Lookup.has_eq_ok_true_iff _ interface implementation).trans
    (exists_adminObject_iff connector interface (some implementation)).symm

theorem classes_of_ne_nil (nonempty : connector.adminObjects ≠ []) (interface : String) :
    ∃ names, classes (some connector) (some interface) = .ok (some names) ∧
      names.Pairwise (· < ·) ∧
      ∀ name, name ∈ names ↔
        has (some connector) (some interface) (some name) = .ok true := by
  rcases Lookup.classes_of_ne_nil nonempty interface with ⟨names, answer, ascending, members⟩
  refine ⟨names, ?_, ascending, ?_⟩
  · exact congrArg Except.ok answer
  · intro name
    rw [members, has_eq_ok_true_iff, exists_adminObject_iff]

theorem interfaces_of_ne_nil (nonempty : connector.adminObjects ≠ []) :
    interfaces (some connector) =
      .ok (some (connector.adminObjects.map AdminObject.interface)) := by
  have answer : Lookup.interfaces (some connector.adminObjects) =
      some (connector.adminObjects.map AdminObject.interface) := by
    cases objects : connector.adminObjects with
    | nil => exact (nonempty objects).elim
    | cons object rest => rfl
  exact congrArg Except.ok answer

theorem mem_interfaces_iff (connector : Connector) (interface : String) :
    interface ∈ connector.adminObjects.map AdminObject.interface ↔
      ∃ object, adminObject (some connector) (some interface) none = .ok (some object) := by
  rw [exists_adminObject_iff, List.mem_map]
  simp only [Lookup.fits_none_iff]
  rfl

/-- Confidential names are missing only as the object is. -/
theorem confidential_eq_error_iff (connector : Connector) (interface : String)
    (implementation : Option String) (fault : Fault) :
    confidential (some connector) [some interface, implementation] = .error fault ↔
      adminObject (some connector) (some interface) implementation = .error fault := by
  rw [confidential_eq_adminObject, List.head?_cons, Option.join_some]
  cases adminObject (some connector) (some interface) implementation with
  | error cause => simp [Except.map]
  | ok object => simp [Except.map]

section Properties

variable (archive : Option String) (calls : List Introspector.Call)

theorem run_beanProperties_of_error {fault : Fault}
    (missing : adminObject (some connector) (some interface) implementation = .error fault) :
    (beanProperties introspector (some connector) (some interface) implementation archive).run
      calls = (.error fault, calls) := by
  rw [run_beanProperties, missing]

/-- Properties are missing as the object is, or as the introspector says of its class. -/
theorem beanProperties_eq_notFound_iff (knows : introspector.KnowsClasses)
    (connector : Connector) (interface : String) (implementation : Option String)
    (missing : String) (class? : Option String) :
    ((beanProperties introspector (some connector) (some interface) implementation
        archive).run calls).1 = .error (.notFound missing class?) ↔
      adminObject (some connector) (some interface) implementation =
        .error (.notFound missing class?) := by
  constructor
  · intro failed
    rw [run_beanProperties] at failed
    split at failed
    next answer =>
      cases failed
      exact answer
    next => cases failed
    next object answer =>
      rcases defaults_of_effective_eq_error _ _ _ _ failed with ⟨className, known, -, unknown⟩
      exact (knows _ _ _ _ _ unknown).elim
  · intro failed
    rw [run_beanProperties_of_error archive calls failed]

/-- An object of a class has properties, or there is a fault. -/
theorem beanProperties_ne_nothing (introspector : Introspector)
    (nonempty : connector.adminObjects ≠ []) (interface : String) {className : String}
    (named : className ≠ "") :
    ((beanProperties introspector (some connector) (some interface) (some className)
      archive).run calls).1 ≠ .ok none := by
  rcases found_or_notFound nonempty interface (some className) with ⟨object, found⟩ | missing
  · have implemented :=
      ((Lookup.fits_some_iff _ _ _).mp (fits_of_adminObject found).2).2
    rw [run_beanProperties, found]
    simp only [run_effective_of_class _ _ object _ implemented named]
    cases introspector.defaults className ((Configured.properties object).map Property.name)
        (some (archiveName connector archive)) with
    | error fault => simp [Except.map]
    | ok defaults => simp [Except.map]
  · rw [run_beanProperties_of_error archive calls missing]
    simp

end Properties

/-! ## All questions -/

/-- The answers about one interface and one class agree. -/
structure Agree (introspector : Introspector) (connector : Connector)
    (interface implementation : String) : Prop where
  /-- There is an object exactly if one is found; the question always has an answer. -/
  has : ∃ answer, has (some connector) (some interface) (some implementation) = .ok answer ∧
    (answer = true ↔ connector.adminObjects ≠ [] ∧
      ∃ object, adminObject (some connector) (some interface) (some implementation) =
        .ok (some object))
  /-- The object that is found is one of this interface and this class. -/
  found : ∀ object,
    adminObject (some connector) (some interface) (some implementation) = .ok (some object) →
      object ∈ connector.adminObjects ∧ object.interface = interface ∧
        object.implementation = some implementation
  /-- Finding no object among some is a fault. -/
  notFound : connector.adminObjects ≠ [] →
    ((¬ ∃ object, adminObject (some connector) (some interface) (some implementation) =
        .ok (some object)) ↔
      adminObject (some connector) (some interface) (some implementation) =
        .error (.notFound interface (some implementation)))
  /-- The classes of the interface are those that there is an object of. -/
  classes : connector.adminObjects ≠ [] →
    ∃ names, classes (some connector) (some interface) = .ok (some names) ∧
      names.Pairwise (· < ·) ∧
      ∀ name, name ∈ names ↔
        Query.has (some connector) (some interface) (some name) = .ok true
  /-- The interfaces are those that an object of any class is found for. -/
  interfaces : connector.adminObjects ≠ [] →
    ∃ names, interfaces (some connector) = .ok (some names) ∧
      (interface ∈ names ↔
        ∃ object, adminObject (some connector) (some interface) none = .ok (some object))
  /-- Confidential names are missing exactly as the object is. -/
  confidential : ∀ fault,
    confidential (some connector) [some interface, some implementation] = .error fault ↔
      adminObject (some connector) (some interface) (some implementation) = .error fault
  /-- So are properties, as far as the introspector knows classes only. -/
  properties : introspector.KnowsClasses → ∀ archive calls missing class?,
    ((beanProperties introspector (some connector) (some interface) (some implementation)
        archive).run calls).1 = .error (.notFound missing class?) ↔
      adminObject (some connector) (some interface) (some implementation) =
        .error (.notFound missing class?)
  /-- Of a class there are properties. -/
  classed : implementation ≠ "" → connector.adminObjects ≠ [] → ∀ archive calls,
    ((beanProperties introspector (some connector) (some interface) (some implementation)
      archive).run calls).1 ≠ .ok none
  /-- A connector without objects has nothing to say. -/
  empty : connector.adminObjects = [] →
    adminObject (some connector) (some interface) (some implementation) = .ok none ∧
    Query.interfaces (some connector) = .ok none ∧
    Query.classes (some connector) (some interface) = .ok none ∧
    Query.has (some connector) (some interface) (some implementation) = .ok false ∧
    Query.confidential (some connector) [some interface, some implementation] = .ok [] ∧
    ∀ archive calls,
      (beanProperties introspector (some connector) (some interface) (some implementation)
        archive).run calls = (.ok none, calls)

theorem agree (introspector : Introspector) (connector : Connector)
    (interface implementation : String) :
    Agree introspector connector interface implementation where
  has := by
    have found := has_eq_ok_true_iff connector interface implementation
    rw [has_eq, Except.ok.injEq] at found
    refine ⟨_, has_eq connector interface implementation, found.trans ?_⟩
    constructor
    · rintro ⟨object, answer⟩
      exact ⟨List.ne_nil_of_mem (fits_of_adminObject answer).1, object, answer⟩
    · exact And.right
  found := by
    intro object answer
    obtain ⟨member, fitting⟩ := fits_of_adminObject answer
    exact ⟨member, (Lookup.fits_some_iff _ _ _).mp fitting⟩
  notFound := by
    intro nonempty
    constructor
    · intro unfound
      exact (found_or_notFound nonempty interface (some implementation)).resolve_left unfound
    · rintro missing ⟨object, found⟩
      rw [found] at missing
      cases missing
  classes := by
    intro nonempty
    exact classes_of_ne_nil nonempty interface
  interfaces := by
    intro nonempty
    exact ⟨_, interfaces_of_ne_nil nonempty, mem_interfaces_iff connector interface⟩
  confidential := confidential_eq_error_iff connector interface (some implementation)
  properties := by
    intro knows archive calls missing class?
    exact beanProperties_eq_notFound_iff archive calls knows connector interface _ missing class?
  classed := by
    intro named nonempty archive calls
    exact beanProperties_ne_nothing archive calls introspector nonempty interface named
  empty := by
    intro empty
    cases connector with
    | mk name objects =>
        cases empty
        exact ⟨rfl, rfl, rfl, rfl, rfl, fun _ _ => rfl⟩

/-- The answers to all questions about a connector agree, for every interface and every
class.  The introspectors that there are know classes only. -/
theorem answers_agree :
    (∀ introspector connector interface implementation,
      Agree introspector connector interface implementation) ∧
    (∀ table, (Introspector.ofTable table).KnowsClasses) ∧
    (∀ classes, (Introspector.ofLoader (.ofClasses classes)).KnowsClasses) ∧
    ∀ modules, (Introspector.ofLoader (.ofModules modules)).KnowsClasses :=
  ⟨agree, Introspector.knowsClasses_ofTable, Introspector.knowsClasses_ofClasses,
    Introspector.knowsClasses_ofModules⟩

/-- A connector with three objects for one interface: the first has no class, the second
an empty one. -/
def queues : Connector where
  name := "queues"
  adminObjects :=
    [ ⟨"jakarta.jms.Queue", none, []⟩,
      ⟨"jakarta.jms.Queue", some "", []⟩,
      ⟨"jakarta.jms.Queue", some "queues.Queue", []⟩,
      ⟨"jakarta.jms.Topic", some "queues.Topic", []⟩ ]

/-- Only the empty class and the named one are classes of the interface.  The object without
a class is found if no class is given, and the class of the topic is none of a queue. -/
theorem answers_agree_queues :
    has (some queues) (some "jakarta.jms.Queue") (some "") = .ok true ∧
    (∃ names, classes (some queues) (some "jakarta.jms.Queue") = .ok (some names) ∧
      "" ∈ names ∧ "queues.Topic" ∉ names) ∧
    (∃ object, adminObject (some queues) (some "jakarta.jms.Queue") none =
      .ok (some object)) ∧
    ((beanProperties (.ofLoader (.ofModules [])) (some queues) (some "jakarta.jms.Queue")
        (some "queues.Topic") none).run []).1 =
      .error (.notFound "jakarta.jms.Queue" (some "queues.Topic")) := by
  obtain ⟨agree, -, -, knows⟩ := answers_agree
  have blank := agree (.ofTable []) queues "jakarta.jms.Queue" ""
  have topic := agree (.ofLoader (.ofModules [])) queues "jakarta.jms.Queue" "queues.Topic"
  have nonempty : queues.adminObjects ≠ [] := List.cons_ne_nil _ _
  have present : has (some queues) (some "jakarta.jms.Queue") (some "") = .ok true := rfl
  have absent : has (some queues) (some "jakarta.jms.Queue") (some "queues.Topic") =
      .ok false := rfl
  refine ⟨present, ?classes, ?found, ?properties⟩
  case classes =>
    obtain ⟨names, answer, -, members⟩ := blank.classes nonempty
    refine ⟨names, answer, (members "").mpr present, ?_⟩
    rw [members, absent]
    simp
  case found =>
    obtain ⟨names, answer, member⟩ := blank.interfaces nonempty
    cases answer
    exact member.mp (by decide)
  case properties =>
    apply (topic.properties (knows []) none [] _ _).mpr
    apply (topic.notFound nonempty).mp
    intro found
    obtain ⟨answer, shown, found_iff⟩ := topic.has
    rw [absent] at shown
    cases shown
    exact Bool.false_ne_true (found_iff.mpr ⟨nonempty, found⟩)

end Query

end ServerResources
