import ServerResources.Proofs.Deployment.Direct
import ServerResources.Proofs.Naming.Scopes

/-!
# Two ways into one directory

A mail session can be deployed directly, under its resource name, and it can be
registered for an application, under its own name.  Both ways lead into the same
directory, and both replace what is bound already.  They do not get in each other's way
because every resource name is in the name space of the server, while every name that is
published is in the scope of an application or in the global scope.

That is enough if the name space overlaps with neither scope.  Then neither way ever
touches what came about by the other, whatever fails in between and whatever becomes of
the definitions.
-/

namespace ServerResources

/-- What a deployment is used for.  Before each use the outage and the definitions may
change in any way.  A batch that meets several outages is as many turns as it has calls,
each with the definitions as the one before left them. -/
inductive Use where
  | turn (turn : Turn)
  | deploy (outage : Outage) (definitions : Definitions) (id : DefinitionId)
  | undeploy (outage : Outage) (definitions : Definitions) (id : DefinitionId)

namespace Deployment

open Registrar

/-- The deployment as it meets an outage and with other definitions. -/
def facing (deployment : Deployment (NameServer Payload)) (outage : Outage)
    (definitions : Definitions) : Deployment (NameServer Payload) :=
  { deployment.withNaming { deployment.registrar.naming with outage := outage } with
    definitions := definitions }

/-- Makes use of a deployment. -/
def use (deployment : Deployment (NameServer Payload)) : Use → Deployment (NameServer Payload)
  | .turn turn => (deployment.meeting turn).perform turn.operation
  | .deploy outage definitions id => ((deployment.facing outage definitions).deploy id).2
  | .undeploy outage definitions id => ((deployment.facing outage definitions).undeploy id).2

/-- Makes one use after another. -/
def useEach (deployment : Deployment (NameServer Payload)) (uses : List Use) :
    Deployment (NameServer Payload) :=
  uses.foldl use deployment

/-- The events of a use.  A direct deployment concerns no published name. -/
def eventsOfUse (deployment : Deployment (NameServer Payload)) : Use → List (Event Payload)
  | .turn turn => eventsOf turn.operation.calls (deployment.meeting turn)
  | .deploy _ _ _ => []
  | .undeploy _ _ _ => []

/-- The events of one use after another. -/
def historyOfUses : List Use → Deployment (NameServer Payload) → List (Event Payload)
  | [], _ => []
  | use :: rest, deployment => deployment.eventsOfUse use ++ historyOfUses rest (deployment.use use)

variable {settings rules : Settings} {deployment : Deployment (NameServer Payload)}
  {past : List (Event Payload)}

/-! ## What each way leaves alone -/

/-- A shared name is not the name of a resource. -/
theorem directKey_ne_of_shared (reserved : deployment.settings.ReservesNames rules)
    {key : BindingKey} (shared : rules.isShared key.name = true) (id : DefinitionId) :
    deployment.directKey id ≠ key := by
  intro same
  have inside : Text.begins deployment.settings.sessionNamespace key.name = true := by
    rw [← same]
    exact Settings.begins_resourceName _ _
  exact Bool.false_ne_true ((reserved.isShared_eq_false inside).symm.trans shared)

/-- An operation touches shared names only. -/
theorem lookup_perform (sound : deployment.registrar.Sound) {key : BindingKey}
    (hidden : deployment.registrar.settings.isShared key.name = false) (operation : Operation) :
    (deployment.perform operation).registrar.lookup key = deployment.registrar.lookup key := by
  rcases events_of_calls sound operation.calls with ⟨-, shared, kept⟩
  rw [perform_eq_calls]
  apply kept
  intro event member same
  have visible := shared event member
  rw [← same] at hidden
  exact Bool.false_ne_true (hidden.symm.trans visible)

theorem backed_calls (backed : Backed past deployment.registrar) (calls : List Call) :
    Backed (past ++ eventsOf calls deployment) (callEach calls deployment).registrar := by
  apply calls_preserve fun past current => Backed past current.registrar
  · intro past current made holds
    cases made with
    | register application id payload =>
        exact (register_registers current application id _).backed holds
    | unregister application id =>
        exact (unregister_unregisters current application id).backed holds
  · exact backed

/-! ## What every use preserves -/

/-- A deployment of which every published name is backed by its binding. -/
structure Separated (settings rules : Settings) (past : List (Event Payload))
    (deployment : Deployment (NameServer Payload)) : Prop where
  settings_eq : deployment.settings = settings
  rules_eq : deployment.registrar.settings = rules
  backed : Backed past deployment.registrar

namespace Separated

/-- Only the bindings of shared names matter. -/
theorem congr (separated : Separated settings rules past deployment)
    {after : Deployment (NameServer Payload)} (same : after.settings = deployment.settings)
    (sameRules : after.registrar.settings = deployment.registrar.settings)
    (published : after.registrar.published = deployment.registrar.published)
    (bound : ∀ key, rules.isShared key.name = true →
      after.registrar.lookup key = deployment.registrar.lookup key) :
    Separated settings rules past after where
  settings_eq := same.trans separated.settings_eq
  rules_eq := sameRules.trans separated.rules_eq
  backed := by
    apply separated.backed.congr sameRules published
    rw [separated.rules_eq]
    exact bound

theorem facing (separated : Separated settings rules past deployment) (outage : Outage)
    (definitions : Definitions) :
    Separated settings rules past (deployment.facing outage definitions) :=
  separated.congr rfl rfl rfl fun _ _ => rfl

theorem directKey_ne (separated : Separated settings rules past deployment)
    (reserved : settings.ReservesNames rules) {key : BindingKey}
    (shared : rules.isShared key.name = true) (id : DefinitionId) :
    deployment.directKey id ≠ key := by
  rw [← separated.settings_eq] at reserved
  exact directKey_ne_of_shared reserved shared id

/-- Neither a direct deployment nor its undoing touches a shared name. -/
theorem lookup_direct (separated : Separated settings rules past deployment)
    (reserved : settings.ReservesNames rules) (outage : Outage) (definitions : Definitions)
    (id : DefinitionId) {key : BindingKey} (shared : rules.isShared key.name = true) :
    (deployment.use (.deploy outage definitions id)).registrar.lookup key =
        deployment.registrar.lookup key ∧
      (deployment.use (.undeploy outage definitions id)).registrar.lookup key =
        deployment.registrar.lookup key := by
  have away := (separated.facing outage definitions).directKey_ne reserved shared id
  constructor
  · exact lookup_deploy _ id away
  · exact lookup_undeploy _ id away

/-- A turn does not touch the name space of the server. -/
theorem lookup_turn (separated : Separated settings rules past deployment)
    (reserved : settings.ReservesNames rules) (turn : Turn) {key : BindingKey}
    (inside : Text.begins settings.sessionNamespace key.name = true) :
    (deployment.use (.turn turn)).registrar.lookup key = deployment.registrar.lookup key := by
  have met := separated.facing turn.outage turn.definitions
  apply lookup_perform met.backed.sound
  rw [met.rules_eq]
  exact reserved.isShared_eq_false inside

theorem use (separated : Separated settings rules past deployment)
    (reserved : settings.ReservesNames rules) (use : Use) :
    Separated settings rules (past ++ deployment.eventsOfUse use) (deployment.use use) := by
  cases use with
  | turn turn =>
      have met := separated.facing turn.outage turn.definitions
      constructor
      case settings_eq =>
        apply perform_preserves fun current => current.settings = settings
        · intro current made held
          cases made <;> exact held
        · exact met.settings_eq
      case rules_eq => exact (settings_perform _ turn.operation).trans met.rules_eq
      case backed =>
        have backed := backed_calls met.backed turn.operation.calls
        rw [← perform_eq_calls] at backed
        exact backed
  | deploy outage definitions id =>
      rw [eventsOfUse, List.append_nil]
      exact separated.congr rfl rfl rfl fun key shared =>
        (separated.lookup_direct reserved outage definitions id shared).1
  | undeploy outage definitions id =>
      rw [eventsOfUse, List.append_nil]
      exact separated.congr rfl rfl rfl fun key shared =>
        (separated.lookup_direct reserved outage definitions id shared).2

theorem useEach (separated : Separated settings rules past deployment)
    (reserved : settings.ReservesNames rules) (uses : List Use) :
    Separated settings rules (past ++ historyOfUses uses deployment)
      (deployment.useEach uses) := by
  induction uses generalizing deployment past with
  | nil =>
      rw [historyOfUses, List.append_nil]
      exact separated
  | cons use rest ih =>
      rw [historyOfUses, ← List.append_assoc]
      exact ih (separated.use reserved use)

end Separated

/-- If the name space of the server overlaps with no scope in which names are published,
then in every state that a deployment gets into, over any name server, a direct deployment
or its undoing changes no binding of a shared name, and an operation changes no binding in
the name space of the server, whether they fail or not.  Every published name therefore
stays bound to the payload that it was published with last. -/
theorem name_spaces_apart (settings : Settings) (registrarSettings : Option Settings)
    (server : NameServer Payload) (uses : List Use) :
    let rules := registrarSettings.getD settings
    let first := start settings registrarSettings server
    let deployment := first.useEach uses
    settings.ReservesNames rules →
    (∀ outage definitions id key, rules.isShared key.name = true →
      (deployment.use (.deploy outage definitions id)).registrar.lookup key =
          deployment.registrar.lookup key ∧
        (deployment.use (.undeploy outage definitions id)).registrar.lookup key =
          deployment.registrar.lookup key) ∧
    (∀ turn key, Text.begins settings.sessionNamespace key.name = true →
      (deployment.use (.turn turn)).registrar.lookup key = deployment.registrar.lookup key) ∧
    ∀ application name key,
      deployment.registrar.published.get? (application, name) = some key →
        key = bindingKey application name ∧ rules.isShared key.name = true ∧
        ∃ earlier payload later,
          historyOfUses uses first = earlier ++ .published application name payload :: later ∧
          (∀ event ∈ later, event.place ≠ (application, name)) ∧
          deployment.registrar.lookup key = some payload := by
  intro rules first deployment reserved
  have begun : Separated settings rules [] first := ⟨rfl, rfl, backed_start rules server⟩
  have separated : Separated settings rules ([] ++ historyOfUses uses first) deployment :=
    begun.useEach reserved uses
  refine ⟨?direct, ?turns, ?published⟩
  case direct =>
    intro outage definitions id key shared
    exact separated.lookup_direct reserved outage definitions id shared
  case turns =>
    intro turn key inside
    exact separated.lookup_turn reserved turn inside
  case published =>
    intro application name key found
    rcases separated.backed application name key found with
      ⟨rfl, shared, payload, ⟨earlier, later, split, last⟩, bound⟩
    rw [separated.rules_eq] at shared
    exact ⟨rfl, shared, earlier, payload, later, split, last, bound⟩

/-- A session that is registered for the shop, deployed, and undeployed while nothing can
be unbound. -/
def mixedUses : List Use :=
  let definitions : Definitions := ⟨[{ MailSession.blank with name := "java:app/mail" }]⟩
  [ .turn ⟨.none, definitions, .register "shop" 0 (.value .null)⟩,
    .deploy .none definitions 0,
    .undeploy (.ofNames [] ["*"]) definitions 0 ]

theorem name_spaces_apart_mixed :
    ({} : Settings).ReservesNames {} ∧
    ((start {} none .start).useEach mixedUses).registrar.lookup
      (bindingKey "shop" "java:app/mail") = some (.value .null) ∧
    ∀ outage definitions id,
      (((start {} none .start).useEach mixedUses).use
        (.undeploy outage definitions id)).registrar.lookup (bindingKey "shop" "java:app/mail") =
          some (.value .null) := by
  have reserved : ({} : Settings).ReservesNames {} := by
    decide +kernel
  have shared : ({} : Settings).isShared (bindingKey "shop" "java:app/mail").name = true := by
    decide +kernel
  have bound : ((start {} none .start).useEach mixedUses).registrar.lookup
      (bindingKey "shop" "java:app/mail") = some (.value .null) := rfl
  refine ⟨reserved, bound, ?_⟩
  intro outage definitions id
  have apart := (name_spaces_apart {} none .start mixedUses reserved).1
  exact (apart outage definitions id _ shared).2.trans bound

end Deployment

end ServerResources
