import ServerResources.Proofs.Deployment.History
import ServerResources.Proofs.Registrar.Watched

/-!
# Deployments over a watched naming service

Nothing is assumed of the naming service here: it may refuse any call, and what it
answers may depend on everything that it was asked before.  A deployment over such a
service is watched while it fulfils some tasks, each with definitions of its own.
Watching does not change what the deployment does, and what the service was asked for a
name of an application is a sequence in which publications and withdrawals take turns.
-/

namespace ServerResources

open Registrar

/-- An operation with the definitions that it meets. -/
structure Task where
  definitions : Definitions
  operation : Operation

namespace Deployment

variable {σ : Type}

/-- The deployment with other definitions. -/
def withDefinitions (deployment : Deployment σ) (definitions : Definitions) : Deployment σ :=
  { deployment with definitions := definitions }

/-- The deployment with its naming service unwatched. -/
def unwatched (deployment : Deployment (Watched σ)) : Deployment σ :=
  { deployment with registrar := deployment.registrar.unwatched }

section Tasks

variable [NamingService σ Payload]

/-- Performs an operation over any naming service. -/
def carryOut (deployment : Deployment σ) : Operation → Deployment σ
  | .register application id payload => (deployment.register application id payload).2
  | .unregister application id => (deployment.unregister application id).2
  | .registerAll application => (deployment.registerAll application).2
  | .unregisterAll application => (deployment.unregisterAll application).2

/-- Fulfils tasks one after another. -/
def fulfil (deployment : Deployment σ) (tasks : List Task) : Deployment σ :=
  tasks.foldl
    (fun current task => (current.withDefinitions task.definitions).carryOut task.operation)
    deployment

/-- What every registration and every withdrawal preserves, an operation preserves. -/
theorem carryOut_preserves (invariant : Deployment σ → Prop)
    (registering : ∀ deployment application id payload, invariant deployment →
      invariant (deployment.register application id payload).2)
    (withdrawing : ∀ deployment application id, invariant deployment →
      invariant (deployment.unregister application id).2)
    (deployment : Deployment σ) (operation : Operation) (holds : invariant deployment) :
    invariant (deployment.carryOut operation) := by
  cases operation with
  | register application id payload => exact registering deployment application id payload holds
  | unregister application id => exact withdrawing deployment application id holds
  | registerAll application =>
      exact registerEach_preserves invariant
        (fun current id payload => registering current application.name id payload)
        application.walk deployment holds
  | unregisterAll application =>
      exact unregisterEach_preserves invariant
        (fun current id => withdrawing current application.name id)
        application.walk deployment holds

end Tasks

variable [NamingService σ Payload] {deployment : Deployment (Watched σ)} {application : String}

/-! ## Watching changes nothing -/

theorem register_unwatched (deployment : Deployment (Watched σ)) (application : String)
    (id : DefinitionId) (payload : Payload) :
    deployment.unwatched.register application id payload =
      ((deployment.register application id payload).1,
        (deployment.register application id payload).2.unwatched) := by
  have call := deployment.registrar.register_unwatched application
    (deployment.definitions.get id).name payload
  simp only [register, unwatched, call]
  rfl

theorem unregister_unwatched (deployment : Deployment (Watched σ)) (application : String)
    (id : DefinitionId) :
    deployment.unwatched.unregister application id =
      ((deployment.unregister application id).1,
        (deployment.unregister application id).2.unwatched) := by
  have call := deployment.registrar.unregister_unwatched application
    (deployment.definitions.get id).name
  simp only [unregister, unwatched, call]

theorem registerEach_unwatched (ids : List DefinitionId) (deployment : Deployment (Watched σ)) :
    registerEach application ids deployment.unwatched =
      ((registerEach application ids deployment).1,
        (registerEach application ids deployment).2.unwatched) := by
  induction ids generalizing deployment with
  | nil => rfl
  | cons id rest ih =>
      have resource : deployment.unwatched.resourceOf id = deployment.resourceOf id := rfl
      simp only [registerEach, resource, register_unwatched, ih]
      rfl

theorem unregisterEach_unwatched (ids : List DefinitionId)
    (deployment : Deployment (Watched σ)) :
    unregisterEach application ids deployment.unwatched =
      ((unregisterEach application ids deployment).1,
        (unregisterEach application ids deployment).2.unwatched) := by
  induction ids generalizing deployment with
  | nil => rfl
  | cons id rest ih =>
      simp only [unregisterEach, unregister_unwatched, ih]
      rfl

theorem carryOut_unwatched (deployment : Deployment (Watched σ)) (operation : Operation) :
    deployment.unwatched.carryOut operation = (deployment.carryOut operation).unwatched := by
  cases operation with
  | register application id payload => simp only [carryOut, register_unwatched]
  | unregister application id => simp only [carryOut, unregister_unwatched]
  | registerAll application => simp only [carryOut, registerAll, registerEach_unwatched]
  | unregisterAll application => simp only [carryOut, unregisterAll, unregisterEach_unwatched]

theorem fulfil_unwatched (tasks : List Task) (deployment : Deployment (Watched σ)) :
    deployment.unwatched.fulfil tasks = (deployment.fulfil tasks).unwatched := by
  induction tasks generalizing deployment with
  | nil => rfl
  | cons task rest ih =>
      have step : (deployment.unwatched.withDefinitions task.definitions).carryOut
          task.operation =
          ((deployment.withDefinitions task.definitions).carryOut task.operation).unwatched :=
        carryOut_unwatched (deployment.withDefinitions task.definitions) task.operation
      simp only [fulfil, List.foldl_cons, step]
      exact ih _

/-! ## What the naming service is asked -/

theorem faithful_register (faithful : deployment.registrar.Faithful) (id : DefinitionId)
    (payload : Payload) :
    (deployment.register application id payload).2.registrar.Faithful := by
  obtain ⟨made, extended, asks⟩ :=
    deployment.registrar.register_asks application (deployment.nameOf id) payload
  exact asks.faithful faithful extended rfl

theorem faithful_unregister (faithful : deployment.registrar.Faithful) (id : DefinitionId) :
    (deployment.unregister application id).2.registrar.Faithful := by
  obtain ⟨made, extended, asks⟩ :=
    deployment.registrar.unregister_asks application (deployment.nameOf id)
  exact asks.faithful faithful extended rfl

theorem faithful_fulfil (faithful : deployment.registrar.Faithful) (tasks : List Task) :
    (deployment.fulfil tasks).registrar.Faithful := by
  induction tasks generalizing deployment with
  | nil => exact faithful
  | cons task rest ih =>
      apply ih
      apply carryOut_preserves fun current => current.registrar.Faithful
      · intro current application id payload held
        exact faithful_register held id payload
      · intro current application id held
        exact faithful_unregister held id
      · exact faithful

/-- A registration publishes its name exactly if its one call was granted. -/
theorem register_made (deployment : Deployment (Watched σ)) (application : String)
    (id : DefinitionId) (payload : Payload) :
    ∃ made, (deployment.register application id payload).2.registrar.attempts =
        deployment.registrar.attempts ++ made ∧
      ((deployment.register application id payload).1 = true ↔
        made = [.bind (bindingKey application (deployment.nameOf id)) true]) ∧
      made.filterMap Attempt.bound? =
        if (deployment.register application id payload).1 then
          [bindingKey application (deployment.nameOf id)]
        else [] := by
  obtain ⟨made, extended, asks⟩ :=
    deployment.registrar.register_asks application (deployment.nameOf id) payload
  exact ⟨made, extended, asks.result_iff_bound, asks.bound_eq⟩

/-- A withdrawal unbinds its name exactly if its one call was granted. -/
theorem unregister_made (faithful : deployment.registrar.Faithful) (application : String)
    (id : DefinitionId) :
    ∃ made, (deployment.unregister application id).2.registrar.attempts =
        deployment.registrar.attempts ++ made ∧
      ((deployment.unregister application id).1 = true ↔
        made = [.unbind (bindingKey application (deployment.nameOf id)) true]) ∧
      made.filterMap Attempt.unbound? =
        if (deployment.unregister application id).1 then
          [bindingKey application (deployment.nameOf id)]
        else [] := by
  obtain ⟨made, extended, asks⟩ :=
    deployment.registrar.unregister_asks application (deployment.nameOf id)
  exact ⟨made, extended, asks.result_iff_unbound faithful, asks.unbound_eq faithful⟩

/-- A batch of registrations returns the names whose calls were granted. -/
theorem registerEach_made (ids : List DefinitionId) (deployment : Deployment (Watched σ)) :
    ∃ made, (registerEach application ids deployment).2.registrar.attempts =
        deployment.registrar.attempts ++ made ∧
      made.filterMap Attempt.bound? =
        (registerEach application ids deployment).1.map (bindingKey application) := by
  induction ids generalizing deployment with
  | nil => exact ⟨[], (List.append_nil _).symm, rfl⟩
  | cons id rest ih =>
      obtain ⟨made, extended, -, bound⟩ :=
        deployment.register_made application id (.mailResource (deployment.resourceOf id))
      obtain ⟨later, further, others⟩ :=
        ih (deployment.register application id (.mailResource (deployment.resourceOf id))).2
      refine ⟨made ++ later, ?_, ?_⟩
      · rw [← List.append_assoc, ← extended]
        exact further
      · rw [List.filterMap_append, bound, others]
        simp only [registerEach, nameOf]
        split <;> rfl

/-- A batch of withdrawals returns the names whose calls were granted. -/
theorem unregisterEach_made (faithful : deployment.registrar.Faithful)
    (ids : List DefinitionId) :
    ∃ made, (unregisterEach application ids deployment).2.registrar.attempts =
        deployment.registrar.attempts ++ made ∧
      made.filterMap Attempt.unbound? =
        (unregisterEach application ids deployment).1.map (bindingKey application) := by
  induction ids generalizing deployment with
  | nil => exact ⟨[], (List.append_nil _).symm, rfl⟩
  | cons id rest ih =>
      obtain ⟨made, extended, -, unbound⟩ := unregister_made faithful application id
      obtain ⟨later, further, others⟩ := ih (faithful_unregister faithful id)
      refine ⟨made ++ later, ?_, ?_⟩
      · rw [← List.append_assoc, ← extended]
        exact further
      · rw [List.filterMap_append, unbound, others]
        simp only [unregisterEach, nameOf]
        split <;> rfl

/-- Whatever a naming service answers, for each name of an application the granted
publications and the attempted withdrawals take turns, beginning with a publication.
The name is published exactly if the last of them is a publication.  A call is granted
exactly if it made one request and that was granted, and a batch returns the names of
its granted requests. -/
theorem publications_alternate (settings : Settings) (registrarSettings : Option Settings)
    (service : σ) (tasks : List Task) :
    let reached := (start settings registrarSettings (Watched.mk service [])).fulfil tasks
    reached.unwatched = (start settings registrarSettings service).fulfil tasks ∧
    (∀ application name,
      let marks := Attempt.marks (bindingKey application name) reached.registrar.attempts
      Mark.Alternate marks ∧
        (reached.registrar.isPublished application name = true ↔
          marks.getLast? = some .published)) ∧
    (∀ application id payload, ∃ made,
      (reached.register application id payload).2.registrar.attempts =
        reached.registrar.attempts ++ made ∧
      ((reached.register application id payload).1 = true ↔
        made = [.bind (bindingKey application (reached.nameOf id)) true])) ∧
    (∀ application id, ∃ made,
      (reached.unregister application id).2.registrar.attempts =
        reached.registrar.attempts ++ made ∧
      ((reached.unregister application id).1 = true ↔
        made = [.unbind (bindingKey application (reached.nameOf id)) true])) ∧
    (∀ application : Application DefinitionId, ∃ made,
      (reached.registerAll application).2.registrar.attempts =
        reached.registrar.attempts ++ made ∧
      made.filterMap Attempt.bound? =
        (reached.registerAll application).1.map (bindingKey application.name)) ∧
    ∀ application : Application DefinitionId, ∃ made,
      (reached.unregisterAll application).2.registrar.attempts =
        reached.registrar.attempts ++ made ∧
      made.filterMap Attempt.unbound? =
        (reached.unregisterAll application).1.map (bindingKey application.name) := by
  intro reached
  have faithful : reached.registrar.Faithful :=
    faithful_fulfil (faithful_start (registrarSettings.getD settings) service) tasks
  refine ⟨?unwatched, ?names, ?register, ?unregister, ?registerAll, ?unregisterAll⟩
  case unwatched =>
    exact (fulfil_unwatched tasks (start settings registrarSettings (Watched.mk service []))).symm
  case names =>
    intro application name
    exact ⟨faithful.alternate application name, faithful.published_iff application name⟩
  case register =>
    intro application id payload
    obtain ⟨made, extended, granted, -⟩ := reached.register_made application id payload
    exact ⟨made, extended, granted⟩
  case unregister =>
    intro application id
    obtain ⟨made, extended, granted, -⟩ := unregister_made faithful application id
    exact ⟨made, extended, granted⟩
  case registerAll =>
    intro application
    exact registerEach_made application.walk reached
  case unregisterAll =>
    intro application
    exact unregisterEach_made faithful application.walk

end Deployment

end ServerResources
