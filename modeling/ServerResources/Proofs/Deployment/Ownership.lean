import ServerResources.Proofs.Deployment.Share

/-!
# Who is given a definition

A registration in the scope of the application writes the owner of the definition before the
name is offered to the name server.  So the owner stays written when the server refuses, and
nothing is written when the name is published already.  In a batch a name becomes published
at its first visit or, if the server refuses it, never: of the definitions of one name the
batch gives the application the first one or all of them.

No field but the owner is ever written, and no other operation writes to a definition.
-/

namespace ServerResources.Deployment

open Registrar

variable (deployment : Deployment (NameServer Payload)) (application : String)

/-! ## One registration -/

theorem claims_eq_true_iff (name : String) :
    deployment.registrar.claims application name = true ↔
      Text.begins deployment.registrar.settings.applicationScope name = true ∧
        deployment.registrar.isPublished application name = false := by
  rw [claims, Bool.and_eq_true, Bool.not_eq_true', and_comm]

/-- A registration writes the owner of its definition, or nothing. -/
theorem get_register (id other : DefinitionId) (payload : Payload) :
    (deployment.register application id payload).2.definitions.get other =
      if (other = id ∧ id < deployment.definitions.sessions.length) ∧
          deployment.registrar.claims application (deployment.nameOf id) = true then
        { deployment.definitions.get other with owner := some application }
      else deployment.definitions.get other := by
  simp only [register, Definitions.get_set, claim]
  by_cases here : other = id ∧ id < deployment.definitions.sessions.length
  · rw [if_pos here, here.1]
    simp only [true_and, here.2]
    rfl
  · rw [if_neg here, if_neg fun both => here both.1]

/-! ## A batch -/

/-- Whether a batch, on its way, comes to a definition in the scope of the application while
its name is not published. -/
def Meets (ids : List DefinitionId) (id : DefinitionId) : Prop :=
  ∃ earlier later, ids = earlier ++ id :: later ∧
    Text.begins deployment.registrar.settings.applicationScope (deployment.nameOf id) = true ∧
    (registerEach application earlier deployment).2.registrar.isPublished application
      (deployment.nameOf id) = false

/-- The first definition of a batch is met as the deployment is, the others as it is after
the registration of the first. -/
theorem meets_cons (visited : DefinitionId) (rest : List DefinitionId) (id : DefinitionId) :
    deployment.Meets application (visited :: rest) id ↔
      (id = visited ∧
        deployment.registrar.claims application (deployment.nameOf visited) = true) ∨
      (deployment.enroll application visited).2.Meets application rest id := by
  have call := register_registers deployment application visited
    (.mailResource (deployment.resourceOf visited))
  have settings : (deployment.enroll application visited).2.registrar.settings =
      deployment.registrar.settings := call.settings_eq
  have name : (deployment.enroll application visited).2.nameOf id = deployment.nameOf id :=
    nameOf_register deployment application visited id _
  simp only [Meets, settings, name]
  constructor
  · rintro ⟨earlier, later, split, inScope, unpublished⟩
    cases earlier with
    | nil =>
        rw [List.nil_append, List.cons.injEq] at split
        rw [split.1]
        exact .inl ⟨rfl, (deployment.claims_eq_true_iff application _).mpr ⟨inScope, unpublished⟩⟩
    | cons first earlier =>
        rw [List.cons_append, List.cons.injEq] at split
        rw [← split.1] at unpublished
        exact .inr ⟨earlier, later, split.2, inScope, unpublished⟩
  · rintro (⟨rfl, claimed⟩ | ⟨earlier, later, split, inScope, unpublished⟩)
    · exact ⟨[], rest, rfl, (deployment.claims_eq_true_iff application _).mp claimed⟩
    · exact ⟨visited :: earlier, later, by rw [split]; rfl, inScope, unpublished⟩

theorem get_registerEach_of_not_meets (ids : List DefinitionId) {id : DefinitionId}
    (unmet : ¬ deployment.Meets application ids id) :
    (registerEach application ids deployment).2.definitions.get id =
      deployment.definitions.get id := by
  induction ids generalizing deployment with
  | nil => rfl
  | cons visited rest ih =>
      rw [meets_cons, not_or] at unmet
      refine (ih _ unmet.2).trans ?_
      rw [enroll, get_register, if_neg]
      rintro ⟨⟨rfl, -⟩, claimed⟩
      exact unmet.1 ⟨rfl, claimed⟩

/-- A definition that is met again has its owner already. -/
theorem get_registerEach_of_meets (ids : List DefinitionId) {id : DefinitionId}
    (known : id < deployment.definitions.sessions.length)
    (met : deployment.Meets application ids id) :
    (registerEach application ids deployment).2.definitions.get id =
      { deployment.definitions.get id with owner := some application } := by
  induction ids generalizing deployment with
  | nil =>
      obtain ⟨earlier, later, split, -⟩ := met
      simp at split
  | cons visited rest ih =>
      have still : id < (deployment.enroll application visited).2.definitions.sessions.length := by
        rw [enroll, length_register]
        exact known
      have written : (deployment.enroll application visited).2.definitions.get id = _ :=
        get_register deployment application visited id _
      by_cases later : (deployment.enroll application visited).2.Meets application rest id
      · refine (ih _ still later).trans ?_
        rw [written]
        split <;> rfl
      · rw [meets_cons, or_iff_left later] at met
        obtain ⟨rfl, claimed⟩ := met
        refine (get_registerEach_of_not_meets _ application rest later).trans ?_
        rw [written, if_pos ⟨⟨rfl, known⟩, claimed⟩]

/-! ## Which definitions a batch meets -/

/-- A name in the scope of the application is refused only in an outage. -/
theorem accepts_of_inScope {name : String}
    (inScope : Text.begins deployment.registrar.settings.applicationScope name = true) :
    deployment.registrar.accepts name = !deployment.registrar.naming.outage.bind name := by
  rw [accepts, Settings.isShared, inScope, Bool.true_or, Bool.true_and]

/-- Of the definitions of a name that is not published, a batch meets the first one, and all
of them in an outage of that name. -/
theorem meets_iff (ids : List DefinitionId) (id : DefinitionId) :
    deployment.Meets application ids id ↔
      id ∈ ids ∧
      Text.begins deployment.registrar.settings.applicationScope (deployment.nameOf id) = true ∧
      deployment.registrar.isPublished application (deployment.nameOf id) = false ∧
      (deployment.registrar.naming.outage.bind (deployment.nameOf id) = true ∨
        ids.find? (fun other => deployment.nameOf other = deployment.nameOf id) = some id) := by
  constructor
  · rintro ⟨earlier, later, split, inScope, unpublished⟩
    rw [← Bool.not_eq_true, isPublished_registerEach_iff, not_or, Bool.not_eq_true,
      deployment.accepts_of_inScope inScope, Bool.not_eq_true'] at unpublished
    refine ⟨by simp [split], inScope, unpublished.1, ?_⟩
    cases outage : deployment.registrar.naming.outage.bind (deployment.nameOf id) with
    | true => exact .inl rfl
    | false =>
        refine .inr (List.find?_eq_some_iff_append.mpr
          ⟨decide_eq_true rfl, earlier, later, split, ?_⟩)
        intro other visited
        rw [Bool.not_eq_true', decide_eq_false_iff_not]
        intro same
        exact unpublished.2 ⟨List.mem_map.mpr ⟨other, visited, same⟩, outage⟩
  · rintro ⟨visited, inScope, unpublished, refused⟩
    -- the place in the batch where the name is still unpublished
    have place : ∃ earlier later, ids = earlier ++ id :: later ∧
        ¬ (deployment.nameOf id ∈ earlier.map deployment.nameOf ∧
          deployment.registrar.naming.outage.bind (deployment.nameOf id) = false) := by
      rcases refused with outage | first
      · obtain ⟨earlier, later, split⟩ := List.append_of_mem visited
        refine ⟨earlier, later, split, ?_⟩
        rintro ⟨-, served⟩
        exact Bool.false_ne_true (served.symm.trans outage)
      · obtain ⟨-, earlier, later, split, others⟩ := List.find?_eq_some_iff_append.mp first
        refine ⟨earlier, later, split, ?_⟩
        rintro ⟨named, -⟩
        obtain ⟨other, member, same⟩ := List.mem_map.mp named
        have different := others other member
        rw [Bool.not_eq_true', decide_eq_false_iff_not] at different
        exact different same
    obtain ⟨earlier, later, split, still⟩ := place
    refine ⟨earlier, later, split, inScope, ?_⟩
    rw [← Bool.not_eq_true, isPublished_registerEach_iff, not_or, Bool.not_eq_true,
      deployment.accepts_of_inScope inScope, Bool.not_eq_true']
    exact ⟨unpublished, still⟩

/-! ## All operations -/

/-- What the registration of an application writes to the definitions. -/
structure WritesOwners (state : Deployment (NameServer Payload))
    (application : Application DefinitionId) : Prop where
  length_eq : (state.registerAll application).2.definitions.sessions.length =
    state.definitions.sessions.length
  get_of_met : ∀ id, id < state.definitions.sessions.length →
    state.Meets application.name application.walk id →
      (state.registerAll application).2.definitions.get id =
        { state.definitions.get id with owner := some application.name }
  get_of_not_met : ∀ id, ¬ state.Meets application.name application.walk id →
    (state.registerAll application).2.definitions.get id = state.definitions.get id
  met_iff : ∀ id, state.Meets application.name application.walk id ↔
    id ∈ application.walk ∧
    Text.begins state.registrar.settings.applicationScope (state.nameOf id) = true ∧
    state.registrar.isPublished application.name (state.nameOf id) = false ∧
    (state.registrar.naming.outage.bind (state.nameOf id) = true ∨
      application.walk.find? (fun other => state.nameOf other = state.nameOf id) = some id)

/-- In every state and any outage, the registration of an application writes the owner of
the definitions that it meets unpublished in the scope of the application, and nothing else;
withdrawals and direct deployments write nothing. -/
theorem registration_writes_owners (state : Deployment (NameServer Payload))
    (application : Application DefinitionId) :
    state.WritesOwners application ∧
    (state.unregisterAll application).2.definitions = state.definitions ∧
    (∀ name id, (state.unregister name id).2.definitions = state.definitions) ∧
    ∀ id, (state.deploy id).2.definitions = state.definitions ∧
      (state.undeploy id).2.definitions = state.definitions := by
  refine ⟨?_, definitions_unregisterEach _ _ state, fun _ _ => rfl, fun _ => ⟨rfl, rfl⟩⟩
  constructor
  · exact length_registerEach state application.name application.walk
  · intro id known met
    exact get_registerEach_of_meets state application.name application.walk known met
  · intro id unmet
    exact get_registerEach_of_not_meets state application.name application.walk unmet
  · exact meets_iff state application.name application.walk

/-- Definitions with repeated names, of which a name is published and another one is in an
outage. -/
def repeatedMails : Deployment (NameServer Payload) :=
  let definitions : Definitions :=
    ⟨["java:app/mail", "java:app/mail", "java:app/news", "java:app/news", "java:app/old",
      "java:global/mail"].map fun name => { MailSession.blank with name := name }⟩
  let served := { start {} none .start with definitions := definitions }
  let registered := (served.register "shop" 4 (.value .null)).2
  { registered.withNaming
      { registered.registrar.naming with outage := .ofNames ["java:app/news"] [] } with
    definitions := definitions }

theorem registration_writes_owners_repeated :
    let shop : Application DefinitionId :=
      ⟨"shop", [⟨"web", .web, [0, 1, 2, 3, 4, 5], [], [], [], []⟩]⟩
    let after := (repeatedMails.registerAll shop).2
    repeatedMails.registrar.names none = ["java:app/old"] ∧
      after.definitions.sessions.map MailSession.owner =
        [some "shop", none, some "shop", some "shop", none, none] ∧
      after.definitions.get 3 =
        { MailSession.blank with name := "java:app/news", owner := some "shop" } ∧
      after.definitions.get 1 = repeatedMails.definitions.get 1 ∧
      (after.unregisterAll shop).2.definitions = after.definitions := by
  intro shop after
  have writes := (registration_writes_owners repeatedMails shop).1
  refine ⟨by decide +kernel, by decide +kernel, ?_, ?_, ?_⟩
  · have met := (writes.met_iff 3).mpr (by decide +kernel)
    exact writes.get_of_met 3 (by decide) met
  · apply writes.get_of_not_met 1
    rw [writes.met_iff]
    decide +kernel
  · exact (registration_writes_owners after shop).2.1

end ServerResources.Deployment
