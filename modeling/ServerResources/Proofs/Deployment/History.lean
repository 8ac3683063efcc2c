import ServerResources.Proofs.Deployment.Batch
import ServerResources.Proofs.Registrar.Pointwise

/-!
# Histories of a deployment

A deployment is used in turns.  Before a turn the outage of its name server and the
contents of its definitions may change in any way; the turn itself is one call or
one batch.  A batch is the sequence of its calls, so the history of a run is made of
the events of single calls, and it explains what is published and bound in the end.
-/

namespace ServerResources

open Registrar

/-- A call on one definition.  A registration hands over the given payload, or the
mail resource of the definition. -/
inductive Call where
  | register (application : String) (id : DefinitionId) (payload : Option Payload)
  | unregister (application : String) (id : DefinitionId)

/-- What a deployment is asked to do. -/
inductive Operation where
  | register (application : String) (id : DefinitionId) (payload : Payload)
  | unregister (application : String) (id : DefinitionId)
  | registerAll (application : Application DefinitionId)
  | unregisterAll (application : Application DefinitionId)

/-- An operation with the outage and the definitions that it meets. -/
structure Turn where
  outage : Outage
  definitions : Definitions
  operation : Operation

namespace Operation

/-- The calls of an operation, one after another. -/
def calls : Operation → List Call
  | register application id payload => [.register application id (some payload)]
  | unregister application id => [.unregister application id]
  | registerAll application =>
      application.walk.map fun id => .register application.name id none
  | unregisterAll application => application.walk.map fun id => .unregister application.name id

end Operation

namespace Deployment

/-- The payload that a call hands over. -/
def payloadOf (deployment : Deployment (NameServer Payload)) (id : DefinitionId)
    (payload : Option Payload) : Payload :=
  payload.getD (.mailResource (deployment.resourceOf id))

/-- Makes a call. -/
def call (deployment : Deployment (NameServer Payload)) : Call →
    Bool × Deployment (NameServer Payload)
  | .register application id payload =>
      deployment.register application id (deployment.payloadOf id payload)
  | .unregister application id => deployment.unregister application id

/-- Makes calls one after another. -/
def callEach (calls : List Call) (deployment : Deployment (NameServer Payload)) :
    Deployment (NameServer Payload) :=
  calls.foldl (fun current made => (current.call made).2) deployment

/-- What a call does to its name. -/
def eventOf (deployment : Deployment (NameServer Payload)) (made : Call) :
    List (Event Payload) :=
  match made with
  | .register application id payload =>
      eventOfRegister application (deployment.nameOf id) (deployment.payloadOf id payload)
        (deployment.call made).1
  | .unregister application id =>
      eventOfUnregister deployment.registrar application (deployment.nameOf id)
        (deployment.call made).1

/-- The events of calls that are made one after another. -/
def eventsOf : List Call → Deployment (NameServer Payload) → List (Event Payload)
  | [], _ => []
  | made :: rest, deployment =>
      deployment.eventOf made ++ eventsOf rest (deployment.call made).2

/-- Performs an operation. -/
def perform (deployment : Deployment (NameServer Payload)) : Operation →
    Deployment (NameServer Payload)
  | .register application id payload => (deployment.register application id payload).2
  | .unregister application id => (deployment.unregister application id).2
  | .registerAll application => (deployment.registerAll application).2
  | .unregisterAll application => (deployment.unregisterAll application).2

/-- The deployment as a turn meets it. -/
def meeting (deployment : Deployment (NameServer Payload)) (turn : Turn) :
    Deployment (NameServer Payload) :=
  { deployment.withNaming { deployment.registrar.naming with outage := turn.outage } with
    definitions := turn.definitions }

/-- Takes turns one after another. -/
def run (deployment : Deployment (NameServer Payload)) (turns : List Turn) :
    Deployment (NameServer Payload) :=
  turns.foldl (fun current turn => (current.meeting turn).perform turn.operation) deployment

/-- The events of some turns. -/
def history : List Turn → Deployment (NameServer Payload) → List (Event Payload)
  | [], _ => []
  | turn :: rest, deployment =>
      let met := deployment.meeting turn
      eventsOf turn.operation.calls met ++ history rest (met.perform turn.operation)

/-! ## Batches as calls -/

theorem registerEach_eq_calls (application : String) (ids : List DefinitionId)
    (deployment : Deployment (NameServer Payload)) :
    (registerEach application ids deployment).2 =
      callEach (ids.map fun id => .register application id none) deployment := by
  induction ids generalizing deployment with
  | nil => rfl
  | cons id rest ih => exact ih _

theorem unregisterEach_eq_calls (application : String) (ids : List DefinitionId)
    (deployment : Deployment (NameServer Payload)) :
    (unregisterEach application ids deployment).2 =
      callEach (ids.map fun id => .unregister application id) deployment := by
  induction ids generalizing deployment with
  | nil => rfl
  | cons id rest ih => exact ih _

/-- An operation comes to what its calls come to. -/
theorem perform_eq_calls (deployment : Deployment (NameServer Payload))
    (operation : Operation) :
    deployment.perform operation = callEach operation.calls deployment := by
  cases operation with
  | register application id payload => rfl
  | unregister application id => rfl
  | registerAll application => exact registerEach_eq_calls _ _ _
  | unregisterAll application => exact unregisterEach_eq_calls _ _ _

/-! ## What the history explains -/

variable {deployment : Deployment (NameServer Payload)} {past : List (Event Payload)}

/-- What every call preserves together with its events, calls one after another preserve
together with theirs. -/
theorem calls_preserve
    (invariant : List (Event Payload) → Deployment (NameServer Payload) → Prop)
    (step : ∀ past current made, invariant past current →
      invariant (past ++ current.eventOf made) (current.call made).2)
    (holds : invariant past deployment) (calls : List Call) :
    invariant (past ++ eventsOf calls deployment) (callEach calls deployment) := by
  induction calls generalizing deployment past with
  | nil =>
      rw [eventsOf, List.append_nil]
      exact holds
  | cons made rest ih =>
      rw [eventsOf, ← List.append_assoc]
      exact ih (step past deployment made holds)

theorem explains_call (explains : Explains past deployment.registrar) (made : Call) :
    Explains (past ++ deployment.eventOf made) (deployment.call made).2.registrar := by
  cases made with
  | register application id payload =>
      exact (register_registers deployment application id _).explains explains
  | unregister application id =>
      exact (unregister_unregisters deployment application id).explains explains

theorem explains_calls (explains : Explains past deployment.registrar) (calls : List Call) :
    Explains (past ++ eventsOf calls deployment) (callEach calls deployment).registrar := by
  apply calls_preserve fun past current => Explains past current.registrar
  · intro past current made holds
    exact explains_call holds made
  · exact explains

theorem explains_run (explains : Explains past deployment.registrar) (turns : List Turn) :
    Explains (past ++ history turns deployment) (deployment.run turns).registrar := by
  induction turns generalizing deployment past with
  | nil =>
      rw [history, List.append_nil]
      exact explains
  | cons turn rest ih =>
      have met : Explains past (deployment.meeting turn).registrar :=
        explains.congr rfl rfl rfl
      have taken := explains_calls met turn.operation.calls
      rw [← perform_eq_calls] at taken
      rw [history, ← List.append_assoc]
      exact ih taken

/-- Under any outages, every published name stays bound to its own key. -/
theorem intact_run (settings : Settings) (registrarSettings : Option Settings)
    (turns : List Turn) :
    ((Deployment.start settings registrarSettings .start).run turns).registrar.Intact := by
  have first : Explains []
      (Deployment.start settings registrarSettings (.start : NameServer Payload)).registrar :=
    explains_start (registrarSettings.getD settings)
  exact (explains_run first turns).intact

theorem settings_call (deployment : Deployment (NameServer Payload)) (made : Call) :
    (deployment.call made).2.registrar.settings = deployment.registrar.settings := by
  cases made with
  | register application id payload =>
      exact (register_registers deployment application id _).settings_eq
  | unregister application id =>
      exact (unregister_unregisters deployment application id).settings_eq

theorem settings_callEach (calls : List Call) (deployment : Deployment (NameServer Payload)) :
    (callEach calls deployment).registrar.settings = deployment.registrar.settings := by
  induction calls generalizing deployment with
  | nil => rfl
  | cons made rest ih => exact (ih _).trans (settings_call deployment made)

theorem settings_perform (deployment : Deployment (NameServer Payload))
    (operation : Operation) :
    (deployment.perform operation).registrar.settings = deployment.registrar.settings := by
  rw [perform_eq_calls]
  exact settings_callEach operation.calls deployment

theorem settings_run (turns : List Turn) (deployment : Deployment (NameServer Payload)) :
    (deployment.run turns).registrar.settings = deployment.registrar.settings := by
  induction turns generalizing deployment with
  | nil => rfl
  | cons turn rest ih =>
      exact (ih _).trans (settings_perform (deployment.meeting turn) turn.operation)

/-- Under any outages, the published names are bound with the payload that was handed
over last, and what is bound beyond them are the names that could not be unbound. -/
theorem bindings_follow_history (settings : Settings) (registrarSettings : Option Settings)
    (turns : List Turn) :
    let first := Deployment.start settings registrarSettings (.start : NameServer Payload)
    let registrar := (first.run turns).registrar
    (∀ application name key, registrar.published.get? (application, name) = some key →
      key = { name := name, application := some application, module := none } ∧
      (registrarSettings.getD settings).isShared name = true ∧
      ∃ earlier payload later,
        history turns first = earlier ++ .published application name payload :: later ∧
        (∀ event ∈ later, event.place ≠ (application, name)) ∧
        registrar.naming.directory.lookup key = some payload) ∧
    ∀ key ∈ registrar.naming.directory.keys, ∃ application name,
      key = { name := name, application := some application, module := none } ∧
      ((application, name) ∉ registrar.published.keys →
        ∃ earlier later,
          history turns first = earlier ++ .lost application name :: later ∧
          ∀ event ∈ later, event.place ≠ (application, name)) := by
  intro first registrar
  have explains : Explains ([] ++ history turns first) registrar :=
    explains_run (explains_start (registrarSettings.getD settings)) turns
  have config : registrar.settings = registrarSettings.getD settings := settings_run turns first
  constructor
  · intro application name key found
    obtain ⟨equal, shared, payload, ⟨earlier, later, split, last⟩, bound⟩ :=
      explains.published application name key found
    rw [config] at shared
    exact ⟨equal, shared, earlier, payload, later, split, last, bound⟩
  · intro key member
    rcases explains.bound key member with ⟨application, name, equal, lost⟩
    refine ⟨application, name, equal, ?_⟩
    intro absent
    exact lost ((registrar.published.get?_eq_none_iff _).mpr absent)

/-- A run in which a name is published and cannot be unbound when it is withdrawn. -/
def refusedWithdrawal : List Turn :=
  let definitions : Definitions := ⟨[{ MailSession.blank with name := "java:global/mail" }]⟩
  [ ⟨.none, definitions, .register "shop" 0 (.value .null)⟩,
    ⟨.ofNames [] ["*"], definitions, .unregister "shop" 0⟩ ]

theorem bindings_follow_history_refused :
    let first := Deployment.start {} none (.start : NameServer Payload)
    let registrar := (first.run refusedWithdrawal).registrar
    registrar.published.keys = [] ∧
    registrar.naming.directory.keys = [bindingKey "shop" "java:global/mail"] ∧
    ∃ earlier later, history refusedWithdrawal first =
      earlier ++ .lost "shop" "java:global/mail" :: later := by
  intro first registrar
  have unpublished : registrar.published.keys = [] := by
    decide +kernel
  have bound : registrar.naming.directory.keys = [bindingKey "shop" "java:global/mail"] := by
    decide +kernel
  refine ⟨unpublished, bound, ?_⟩
  have follows := (bindings_follow_history {} none refusedWithdrawal).2
  simp only [first, registrar] at unpublished bound follows
  simp only [unpublished, bound, List.mem_singleton, forall_eq, List.not_mem_nil,
    not_false_eq_true, true_implies] at follows
  rcases follows with ⟨application, name, equal, earlier, later, split, -⟩
  rcases bindingKey_inj.mp equal with ⟨rfl, rfl⟩
  exact ⟨earlier, later, split⟩

end Deployment

end ServerResources
