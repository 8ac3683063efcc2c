import ServerResources.Proofs.Lookup.Stability
import ServerResources.Proofs.Query.Agreement

/-!
# What the introspector is asked

Questions about properties are asked one after another, each about a connector of its own.
A question has one of four ends: an argument is missing, there is nothing to say, no object
fits, or the introspector is consulted about the first object that fits.  The end depends
on that first object alone: if it has no class there is nothing to say, even if a later
object that fits has one.

The record of the introspector has one entry for each question of the last kind, in the
order of the questions, and none for the others.
-/

namespace ServerResources

/-- An introspector does not say that an argument of the question is missing. -/
def Introspector.TakesArguments (introspector : Introspector) : Prop :=
  ∀ className known archive argument,
    introspector.defaults className known archive ≠ .error (.missing argument)

theorem Introspector.FaultsForClasses.takesArguments {introspector : Introspector}
    (faults : introspector.FaultsForClasses) : introspector.TakesArguments := by
  intro className known archive argument missing
  rcases faults _ _ _ _ missing with ⟨failure, equal⟩ | ⟨module, equal⟩
  · cases equal
  · cases equal

namespace Query

/-- A question about the properties of an administered object. -/
structure PropertyQuestion where
  connector : Option Connector
  interface : Option String
  implementation : Option String
  archive : Option String

/-- Asks a question. -/
def PropertyQuestion.ask (introspector : Introspector) (question : PropertyQuestion) :
    Introspector.Consultation (Option PropertyBag) :=
  beanProperties introspector question.connector question.interface question.implementation
    question.archive

/-- Asks questions one after another, whatever becomes of those before, and gives the
answers and the record. -/
def askEach (introspector : Introspector) : List PropertyQuestion → List Introspector.Call →
    List (Except Fault (Option PropertyBag)) × List Introspector.Call
  | [], calls => ([], calls)
  | question :: rest, calls =>
      let (answer, calls) := (question.ask introspector).run calls
      let (answers, calls) := askEach introspector rest calls
      (answer :: answers, calls)

/-! ## The object that a question is about -/

/-- An object is of an interface, and of a class if one is given. -/
def IsOf (interface : String) (implementation : Option String) (object : AdminObject) : Prop :=
  object.interface = interface ∧
    (implementation = none ∨ object.implementation = implementation)

/-- An object is the first one of an interface, and of a class if one is given. -/
def IsFirst (objects : List AdminObject) (interface : String) (implementation : Option String)
    (object : AdminObject) : Prop :=
  ∃ before after, objects = before ++ object :: after ∧
    (∀ other ∈ before, ¬ IsOf interface implementation other) ∧
    IsOf interface implementation object

section Objects

variable {connector : Connector} {interface : String} {implementation : Option String}
  {object other : AdminObject}

theorem fits_eq_true_iff :
    Lookup.fits interface implementation object = true ↔ IsOf interface implementation object :=
  Lookup.fits_iff interface implementation object

theorem fits_eq_false_iff :
    Lookup.fits interface implementation object = false ↔
      ¬ IsOf interface implementation object := by
  rw [← fits_eq_true_iff, Bool.not_eq_true]

theorem adminObject_of_isFirst
    (first : IsFirst connector.adminObjects interface implementation object) :
    adminObject (some connector) (some interface) implementation = .ok (some object) := by
  rcases first with ⟨before, after, split, others, fitting⟩
  have skipped : ∀ other ∈ before, Lookup.fits interface implementation other = false := by
    intro other member
    exact fits_eq_false_iff.mpr (others other member)
  rw [adminObject_eq_find, split,
    Lookup.find_of_split skipped (fits_eq_true_iff.mpr fitting)]
  rfl

theorem adminObject_of_none (nonempty : connector.adminObjects ≠ [])
    (others : ∀ other ∈ connector.adminObjects, ¬ IsOf interface implementation other) :
    adminObject (some connector) (some interface) implementation =
      .error (.notFound interface implementation) := by
  have unfitting : ∀ other ∈ connector.adminObjects,
      Lookup.fits interface implementation other = false := by
    intro other member
    exact fits_eq_false_iff.mpr (others other member)
  rw [adminObject_eq_find, Lookup.find_of_unfitting nonempty unfitting]
  rfl

/-- Some object is the first one, or there is none. -/
theorem exists_isFirst (objects : List AdminObject) (interface : String)
    (implementation : Option String) :
    (∃ object, IsFirst objects interface implementation object) ∨
      ∀ object ∈ objects, ¬ IsOf interface implementation object := by
  rcases Lookup.exists_first interface implementation objects with
    ⟨before, object, after, split, first, fitting⟩ | unfitting
  · refine .inl ⟨object, before, after, split, ?_, fits_eq_true_iff.mp fitting⟩
    intro other member
    exact fits_eq_false_iff.mp (first other member)
  · exact .inr fun object member => fits_eq_false_iff.mp (unfitting object member)

theorem IsFirst.unique (first : IsFirst connector.adminObjects interface implementation object)
    (otherFirst : IsFirst connector.adminObjects interface implementation other) :
    object = other := by
  have answer := adminObject_of_isFirst first
  rw [adminObject_of_isFirst otherFirst] at answer
  exact (Option.some.inj (Except.ok.inj answer)).symm

theorem IsFirst.mem {objects : List AdminObject}
    (first : IsFirst objects interface implementation object) : object ∈ objects := by
  rcases first with ⟨before, after, split, -⟩
  rw [split]
  exact List.mem_append_right _ List.mem_cons_self

theorem IsFirst.isOf {objects : List AdminObject}
    (first : IsFirst objects interface implementation object) :
    IsOf interface implementation object := by
  rcases first with ⟨before, after, -, -, fitting⟩
  exact fitting

end Objects

/-- The archive that the introspector is told: the given one, unless it is missing or
empty. -/
theorem archiveName_eq (connector : Connector) (archive : Option String) :
    archiveName connector archive =
      (archive.filter fun name => decide (name ≠ "")).getD connector.name := by
  cases archive with
  | none => rfl
  | some name =>
      by_cases empty : name = ""
      · rw [empty]
        rfl
      · simp [archiveName, Option.filter, empty]

/-! ## The ends of a question -/

namespace PropertyQuestion

/-- The connector and the interface that a question gives. -/
def Gives (question : PropertyQuestion) (connector : Connector) (interface : String) : Prop :=
  question.connector = some connector ∧ question.interface = some interface

/-- A question gives no connector or no interface. -/
def Lacks (question : PropertyQuestion) : Prop :=
  question.connector = none ∨ question.interface = none

/-- There are no objects, or the first one that a question is about has no class. -/
def HasNothing (question : PropertyQuestion) : Prop :=
  ∃ connector interface, question.Gives connector interface ∧
    (connector.adminObjects = [] ∨
      ∃ object, IsFirst connector.adminObjects interface question.implementation object ∧
        (object.implementation = none ∨ object.implementation = some ""))

/-- There are objects, but a question is about none of them. -/
def FindsNone (question : PropertyQuestion) (interface : String) : Prop :=
  ∃ connector, question.Gives connector interface ∧ connector.adminObjects ≠ [] ∧
    ∀ object ∈ connector.adminObjects, ¬ IsOf interface question.implementation object

/-- A question leads to a call about the first object that it is about. -/
structure Consults (question : PropertyQuestion) (object : AdminObject)
    (call : Introspector.Call) : Prop where
  about : ∃ connector interface, question.Gives connector interface ∧
    IsFirst connector.adminObjects interface question.implementation object ∧
    call.archive =
      some ((question.archive.filter fun name => decide (name ≠ "")).getD connector.name)
  implemented : object.implementation = some call.className
  named : call.className ≠ ""
  known : call.known = object.properties.map Property.name

/-- The ends of a question, with the entries that it leaves in the record. -/
inductive Ends (introspector : Introspector) (question : PropertyQuestion) :
    Except Fault (Option PropertyBag) → List Introspector.Call → Prop where
  | refused (argument : MissingArgument) (lacks : question.Lacks) :
      Ends introspector question (.error (.missing argument)) []
  | nothing (silent : question.HasNothing) : Ends introspector question (.ok none) []
  | notFound (interface : String) (findsNone : question.FindsNone interface) :
      Ends introspector question (.error (.notFound interface question.implementation)) []
  | consulted (object : AdminObject) (call : Introspector.Call)
      (consults : question.Consults object call) :
      Ends introspector question
        ((introspector.defaults call.className call.known call.archive).map fun defaults =>
          some (PropertyBag.merge (Property.declared object.properties) defaults))
        [call]

/-- A question about an object ends as the class of the object says. -/
theorem exists_end_of_isFirst (introspector : Introspector) {connector : Connector}
    {interface : String} {implementation : Option String} {object : AdminObject}
    (archive : Option String)
    (first : IsFirst connector.adminObjects interface implementation object) :
    ∃ answer entries,
      Ends introspector ⟨some connector, some interface, implementation, archive⟩ answer entries ∧
        ∀ calls, (introspector.effective object (some (archiveName connector archive))).run calls =
          (answer, calls ++ entries) := by
  by_cases classless : object.implementation = none ∨ object.implementation = some ""
  · refine ⟨_, [], .nothing ⟨connector, interface, ⟨rfl, rfl⟩, .inr ⟨object, first, classless⟩⟩, ?_⟩
    intro calls
    rw [run_effective_of_classless introspector calls object _ classless, List.append_nil]
  · rw [not_or] at classless
    rcases Option.ne_none_iff_exists'.mp classless.1 with ⟨className, implemented⟩
    have named : className ≠ "" := by
      rintro rfl
      exact classless.2 implemented
    let call : Introspector.Call :=
      ⟨className, object.properties.map Property.name, some (archiveName connector archive)⟩
    have consults :
        Consults ⟨some connector, some interface, implementation, archive⟩ object call := by
      refine ⟨⟨connector, interface, ⟨rfl, rfl⟩, first, ?_⟩, implemented, named, rfl⟩
      exact congrArg some (archiveName_eq connector archive)
    refine ⟨_, [call], .consulted object call consults, ?_⟩
    intro calls
    exact run_effective_of_class introspector calls object _ implemented named

/-- A question ends in one of the ways, whatever was recorded before. -/
theorem exists_end (introspector : Introspector) (question : PropertyQuestion) :
    ∃ answer entries, Ends introspector question answer entries ∧
      ∀ calls, (question.ask introspector).run calls = (answer, calls ++ entries) := by
  rcases question with ⟨_ | connector, interface?, implementation, archive⟩
  case none =>
    refine ⟨_, [], .refused .connector (.inl rfl), ?_⟩
    intro calls
    rw [List.append_nil]
    rfl
  case some =>
    cases interface? with
    | none =>
        refine ⟨_, [], .refused .interface (.inr rfl), ?_⟩
        intro calls
        rw [List.append_nil]
        rfl
    | some interface =>
        rcases exists_isFirst connector.adminObjects interface implementation with
          ⟨object, first⟩ | others
        · simp only [ask, run_beanProperties, adminObject_of_isFirst first]
          exact exists_end_of_isFirst introspector archive first
        · by_cases empty : connector.adminObjects = []
          · refine ⟨_, [], .nothing ⟨connector, interface, ⟨rfl, rfl⟩, .inl empty⟩, ?_⟩
            intro calls
            rw [ask, run_beanProperties, adminObject_eq_find, empty, List.append_nil]
            rfl
          · refine ⟨_, [], .notFound interface ⟨connector, ⟨rfl, rfl⟩, empty, others⟩, ?_⟩
            intro calls
            rw [ask, run_beanProperties, adminObject_of_none empty others, List.append_nil]

/-! ## The ends exclude each other -/

section Exclusion

variable {question : PropertyQuestion} {connector other : Connector}
  {interface otherInterface : String} {object otherObject : AdminObject}
  {call otherCall : Introspector.Call}

theorem Gives.not_lacks (given : question.Gives connector interface) : ¬ question.Lacks := by
  simp [Lacks, given.1, given.2]

theorem Gives.unique (given : question.Gives connector interface)
    (otherGiven : question.Gives other otherInterface) :
    connector = other ∧ interface = otherInterface :=
  ⟨Option.some.inj (given.1.symm.trans otherGiven.1),
    Option.some.inj (given.2.symm.trans otherGiven.2)⟩

theorem HasNothing.not_lacks (silent : question.HasNothing) : ¬ question.Lacks := by
  rcases silent with ⟨_, _, given, -⟩
  exact given.not_lacks

theorem FindsNone.not_lacks (findsNone : question.FindsNone interface) : ¬ question.Lacks := by
  rcases findsNone with ⟨_, given, -⟩
  exact given.not_lacks

theorem Consults.not_lacks (consults : question.Consults object call) : ¬ question.Lacks := by
  rcases consults.about with ⟨_, _, given, -⟩
  exact given.not_lacks

theorem FindsNone.unique (findsNone : question.FindsNone interface)
    (otherFindsNone : question.FindsNone otherInterface) : interface = otherInterface := by
  rcases findsNone with ⟨_, given, -⟩
  rcases otherFindsNone with ⟨_, otherGiven, -⟩
  exact (given.unique otherGiven).2

theorem FindsNone.not_hasNothing (findsNone : question.FindsNone interface) :
    ¬ question.HasNothing := by
  rcases findsNone with ⟨connector, given, nonempty, others⟩
  rintro ⟨_, _, otherGiven, silent⟩
  rcases given.unique otherGiven with ⟨rfl, rfl⟩
  rcases silent with empty | ⟨object, first, -⟩
  · exact nonempty empty
  · exact others object first.mem first.isOf

theorem Consults.not_hasNothing (consults : question.Consults object call) :
    ¬ question.HasNothing := by
  rcases consults.about with ⟨connector, interface, given, first, -⟩
  rintro ⟨_, _, otherGiven, silent⟩
  rcases given.unique otherGiven with ⟨rfl, rfl⟩
  rcases silent with empty | ⟨other, otherFirst, classless⟩
  · exact List.ne_nil_of_mem first.mem empty
  · rw [← first.unique otherFirst, consults.implemented] at classless
    simp [consults.named] at classless

theorem Consults.not_findsNone (consults : question.Consults object call) :
    ¬ question.FindsNone otherInterface := by
  rcases consults.about with ⟨connector, interface, given, first, -⟩
  rintro ⟨_, otherGiven, -, others⟩
  rcases given.unique otherGiven with ⟨rfl, rfl⟩
  exact others object first.mem first.isOf

theorem Consults.unique (consults : question.Consults object call)
    (otherConsults : question.Consults otherObject otherCall) :
    object = otherObject ∧ call = otherCall := by
  rcases consults.about with ⟨connector, interface, given, first, archive⟩
  rcases otherConsults.about with ⟨_, _, otherGiven, otherFirst, otherArchive⟩
  rcases given.unique otherGiven with ⟨rfl, rfl⟩
  have same := first.unique otherFirst
  subst same
  refine ⟨rfl, ?_⟩
  have className := Option.some.inj (consults.implemented.symm.trans otherConsults.implemented)
  have known := consults.known.trans otherConsults.known.symm
  have archives := archive.trans otherArchive.symm
  cases call
  cases otherCall
  rw [Introspector.Call.mk.injEq]
  exact ⟨className, known, archives⟩

end Exclusion

/-! ## What the end says about the question -/

namespace Ends

variable {introspector : Introspector} {question : PropertyQuestion}
  {answer : Except Fault (Option PropertyBag)} {entries : List Introspector.Call}

theorem eq_error_of_map {α β : Type} {result : Except Fault α} {function : α → β}
    {fault : Fault} (failed : result.map function = .error fault) : result = .error fault := by
  cases result with
  | error cause =>
      cases failed
      rfl
  | ok value => cases failed

theorem refused_iff (ends : Ends introspector question answer entries)
    (takes : introspector.TakesArguments) :
    (∃ argument, answer = .error (.missing argument)) ↔ question.Lacks := by
  cases ends with
  | refused argument lacks => simp [lacks]
  | nothing silent => simp [silent.not_lacks]
  | notFound interface findsNone => simp [findsNone.not_lacks]
  | consulted object call consults =>
      simp only [consults.not_lacks, iff_false, not_exists]
      intro argument failed
      exact takes _ _ _ _ (eq_error_of_map failed)

theorem nothing_iff (ends : Ends introspector question answer entries) :
    answer = .ok none ↔ question.HasNothing := by
  cases ends with
  | refused argument lacks => simpa using fun silent : question.HasNothing => silent.not_lacks lacks
  | nothing silent => simp [silent]
  | notFound interface findsNone => simp [findsNone.not_hasNothing]
  | consulted object call consults =>
      simp only [consults.not_hasNothing, iff_false]
      cases introspector.defaults call.className call.known call.archive with
      | error fault => simp [Except.map]
      | ok defaults => simp [Except.map]

theorem notFound_iff (ends : Ends introspector question answer entries)
    (knows : introspector.KnowsClasses) (interface : String) (class? : Option String) :
    answer = .error (.notFound interface class?) ↔
      class? = question.implementation ∧ question.FindsNone interface := by
  cases ends with
  | refused argument lacks =>
      simpa using fun _ (findsNone : question.FindsNone interface) => findsNone.not_lacks lacks
  | nothing silent =>
      simpa using fun _ (findsNone : question.FindsNone interface) =>
        findsNone.not_hasNothing silent
  | notFound found findsNone =>
      constructor
      · intro same
        cases same
        exact ⟨rfl, findsNone⟩
      · rintro ⟨rfl, otherFindsNone⟩
        rw [findsNone.unique otherFindsNone]
  | consulted object call consults =>
      constructor
      · intro failed
        exact (knows _ _ _ _ _ (eq_error_of_map failed)).elim
      · intro both
        exact (consults.not_findsNone both.2).elim

theorem merged (ends : Ends introspector question answer entries) {object : AdminObject}
    {call : Introspector.Call} (consults : question.Consults object call) :
    answer = (introspector.defaults call.className call.known call.archive).map fun defaults =>
      some (PropertyBag.merge (Property.declared object.properties) defaults) := by
  cases ends with
  | refused argument lacks => exact (consults.not_lacks lacks).elim
  | nothing silent => exact (consults.not_hasNothing silent).elim
  | notFound interface findsNone => exact (consults.not_findsNone findsNone).elim
  | consulted other otherCall otherConsults =>
      rcases consults.unique otherConsults with ⟨rfl, rfl⟩
      rfl

theorem recorded (ends : Ends introspector question answer entries) {object : AdminObject}
    {call : Introspector.Call} (consults : question.Consults object call) : entries = [call] := by
  cases ends with
  | refused argument lacks => exact (consults.not_lacks lacks).elim
  | nothing silent => exact (consults.not_hasNothing silent).elim
  | notFound interface findsNone => exact (consults.not_findsNone findsNone).elim
  | consulted other otherCall otherConsults => rw [(consults.unique otherConsults).2]

theorem unrecorded_iff (ends : Ends introspector question answer entries) :
    entries = [] ↔
      question.Lacks ∨ question.HasNothing ∨ ∃ interface, question.FindsNone interface := by
  cases ends with
  | refused argument lacks => simp [lacks]
  | nothing silent => simp [silent]
  | notFound interface findsNone => simpa using .inr (.inr ⟨interface, findsNone⟩)
  | consulted object call consults =>
      simp [consults.not_lacks, consults.not_hasNothing, consults.not_findsNone]

theorem unrecorded_or_consults (ends : Ends introspector question answer entries) :
    entries = [] ∨ ∃ object call, question.Consults object call := by
  cases ends with
  | refused argument lacks => exact .inl rfl
  | nothing silent => exact .inl rfl
  | notFound interface findsNone => exact .inl rfl
  | consulted object call consults => exact .inr ⟨object, call, consults⟩

end Ends

/-- What the answer and the entries of a question follow from. -/
structure Explained (introspector : Introspector) (question : PropertyQuestion)
    (answer : Except Fault (Option PropertyBag)) (entries : List Introspector.Call) : Prop where
  /-- An argument is said to be missing exactly if one is. -/
  refused : introspector.TakesArguments →
    ((∃ argument, answer = .error (.missing argument)) ↔ question.Lacks)
  /-- There is no bag, and no fault, exactly if there is nothing to say. -/
  nothing : answer = .ok none ↔ question.HasNothing
  /-- No object is said to be found exactly if none fits. -/
  notFound : introspector.KnowsClasses → ∀ interface class?,
    answer = .error (.notFound interface class?) ↔
      class? = question.implementation ∧ question.FindsNone interface
  /-- The defaults of the class are merged into a bag. -/
  merged : ∀ object call defaults, question.Consults object call →
    introspector.defaults call.className call.known call.archive = .ok defaults →
      answer = .ok (some (PropertyBag.merge (Property.declared object.properties) defaults))
  /-- The fault of the introspector is passed on. -/
  failed : ∀ object call fault, question.Consults object call →
    introspector.defaults call.className call.known call.archive = .error fault →
      answer = .error fault
  /-- The call is the one entry. -/
  recorded : ∀ object call, question.Consults object call → entries = [call]
  /-- There is no entry otherwise. -/
  unrecorded : entries = [] ↔
    question.Lacks ∨ question.HasNothing ∨ ∃ interface, question.FindsNone interface
  /-- A question without an entry is one without a call. -/
  called : entries = [] ∨ ∃ object call, question.Consults object call

theorem Ends.explained {introspector : Introspector} {question : PropertyQuestion}
    {answer : Except Fault (Option PropertyBag)} {entries : List Introspector.Call}
    (ends : Ends introspector question answer entries) :
    Explained introspector question answer entries where
  refused := ends.refused_iff
  nothing := ends.nothing_iff
  notFound := ends.notFound_iff
  merged := by
    intro object call defaults consults known
    rw [ends.merged consults, known]
    rfl
  failed := by
    intro object call fault consults unknown
    rw [ends.merged consults, unknown]
    rfl
  recorded := by
    intro object call consults
    exact ends.recorded consults
  unrecorded := ends.unrecorded_iff
  called := ends.unrecorded_or_consults

/-- A question is answered as if it were the first one, and adds its entries to the
record. -/
theorem run_ask (introspector : Introspector) (question : PropertyQuestion)
    (calls : List Introspector.Call) :
    (question.ask introspector).run calls =
      (((question.ask introspector).run []).1,
        calls ++ ((question.ask introspector).run []).2) := by
  rcases exists_end introspector question with ⟨answer, entries, -, run⟩
  simp only [run, List.nil_append]

end PropertyQuestion

/-! ## Questions one after another -/

theorem askEach_eq (introspector : Introspector) (questions : List PropertyQuestion)
    (calls : List Introspector.Call) :
    askEach introspector questions calls =
      (questions.map fun question => ((question.ask introspector).run []).1,
        calls ++ questions.flatMap fun question =>
          ((question.ask introspector).run []).2) := by
  induction questions generalizing calls with
  | nil => simp [askEach]
  | cons question rest ih =>
      rw [askEach, question.run_ask introspector calls]
      simp only [ih, List.map_cons, List.flatMap_cons, List.append_assoc]

/-- Questions about properties are answered each on its own, and the record has their calls
in order.  The answer and the call of a question follow from the first object that fits. -/
theorem consultations_explained :
    (∀ introspector questions calls,
      askEach introspector questions calls =
        (questions.map fun question => ((question.ask introspector).run []).1,
          calls ++ questions.flatMap fun question =>
            ((question.ask introspector).run []).2)) ∧
    (∀ introspector question,
      PropertyQuestion.Explained introspector question
        ((question.ask introspector).run []).1 ((question.ask introspector).run []).2) ∧
    (∀ table, (Introspector.ofTable table).TakesArguments ∧
      (Introspector.ofTable table).KnowsClasses) ∧
    (∀ classes, (Introspector.ofLoader (.ofClasses classes)).TakesArguments ∧
      (Introspector.ofLoader (.ofClasses classes)).KnowsClasses) ∧
    ∀ modules, (Introspector.ofLoader (.ofModules modules)).TakesArguments ∧
      (Introspector.ofLoader (.ofModules modules)).KnowsClasses := by
  refine ⟨askEach_eq, ?_, ?_, ?_, ?_⟩
  · intro introspector question
    rcases PropertyQuestion.exists_end introspector question with ⟨answer, entries, ends, run⟩
    rw [run, List.nil_append]
    exact ends.explained
  · intro table
    have faults := Introspector.faultsForClasses_ofTable table
    exact ⟨faults.takesArguments, faults.knowsClasses⟩
  · intro classes
    have faults := Introspector.faultsForClasses_ofClasses classes
    exact ⟨faults.takesArguments, faults.knowsClasses⟩
  · intro modules
    have faults := Introspector.faultsForClasses_ofModules modules
    exact ⟨faults.takesArguments, faults.knowsClasses⟩

/-- A queue that declares a property twice. -/
def deepQueue : AdminObject where
  interface := "jakarta.jms.Queue"
  implementation := some "queues.Queue"
  properties := [⟨"depth", none, "int", none, false⟩, ⟨"depth", some "8", "int", none, false⟩]

/-- A connector whose first queue has no class, although the second one has. -/
def shadowed : Connector where
  name := "shadowed"
  adminObjects := [⟨"jakarta.jms.Queue", none, []⟩, deepQueue]

/-- Asked for any queue, there is nothing to say, and nobody is consulted.  Asked for the
class, the introspector is, with the name twice; an empty archive is none. -/
theorem consultations_explained_shadowed :
    let introspector : Introspector := .ofTable []
    let anyQueue : PropertyQuestion := ⟨some shadowed, some "jakarta.jms.Queue", none, none⟩
    let second : PropertyQuestion :=
      ⟨some shadowed, some "jakarta.jms.Queue", some "queues.Queue", some ""⟩
    let unknown : PropertyQuestion := ⟨some shadowed, some "jakarta.jms.Topic", none, none⟩
    ((anyQueue.ask introspector).run []).1 = .ok none ∧
    ((unknown.ask introspector).run []).1 = .error (.notFound "jakarta.jms.Topic" none) ∧
    (askEach introspector [anyQueue, second, unknown, second] []).2 =
      [ ⟨"queues.Queue", ["depth", "depth"], some "shadowed"⟩,
        ⟨"queues.Queue", ["depth", "depth"], some "shadowed"⟩ ] := by
  intro introspector anyQueue second unknown
  obtain ⟨asked, explained, known, -, -⟩ := consultations_explained
  have silent : anyQueue.HasNothing :=
    ⟨shadowed, "jakarta.jms.Queue", ⟨rfl, rfl⟩,
      .inr ⟨_, ⟨[], _, rfl, by simp, rfl, .inl rfl⟩, .inl rfl⟩⟩
  have consults : second.Consults deepQueue
      ⟨"queues.Queue", ["depth", "depth"], some "shadowed"⟩ := by
    refine ⟨⟨shadowed, "jakarta.jms.Queue", ⟨rfl, rfl⟩, ?_, rfl⟩, rfl, by decide, rfl⟩
    exact ⟨[_], [], rfl, by simp [IsOf, second], rfl, .inr rfl⟩
  have findsNone : unknown.FindsNone "jakarta.jms.Topic" :=
    ⟨shadowed, ⟨rfl, rfl⟩, by simp [shadowed], by simp [shadowed, deepQueue, IsOf]⟩
  have unrecorded : ((anyQueue.ask introspector).run []).2 = [] :=
    (explained introspector anyQueue).unrecorded.mpr (.inr (.inl silent))
  have unfound : ((unknown.ask introspector).run []).2 = [] :=
    (explained introspector unknown).unrecorded.mpr (.inr (.inr ⟨_, findsNone⟩))
  have recorded := (explained introspector second).recorded _ _ consults
  refine ⟨(explained introspector anyQueue).nothing.mpr silent, ?_, ?_⟩
  · exact ((explained introspector unknown).notFound (known []).2 _ _).mpr ⟨rfl, findsNone⟩
  · rw [asked]
    simp [unrecorded, unfound, recorded]

end Query

end ServerResources
