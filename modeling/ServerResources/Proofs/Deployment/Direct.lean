import ServerResources.Proofs.Deployment.History

/-!
# Direct deployments

A definition is deployed directly to a key that is made of its resource name and its
owner, and undeployed from the key that is made of them at that time.  Calls of the
registrar come in between.  They never change the name of the definition, but in the
application scope they give it to the application that registers it; they reach the
key itself only if the resource name is shared, which the name space of the server is
there to prevent.

A direct deployment is therefore undone by the undeployment if the definition still has
its owner and no event concerns the key.  Both conditions are needed, and the first can
fail only in the application scope.
-/

namespace ServerResources.Deployment

open Registrar

/-- The deployments that come about by turns, whatever becomes of the name server and of
the definitions between them. -/
inductive Reached (settings : Settings) (registrarSettings : Option Settings) :
    Deployment (NameServer Payload) → Prop where
  | start (server : NameServer Payload) :
      Reached settings registrarSettings (start settings registrarSettings server)
  | turn {deployment : Deployment (NameServer Payload)}
      (reached : Reached settings registrarSettings deployment) (turn : Turn) :
      Reached settings registrarSettings ((deployment.meeting turn).perform turn.operation)
  | elsewhere {deployment : Deployment (NameServer Payload)}
      (reached : Reached settings registrarSettings deployment) (server : NameServer Payload)
      (definitions : Definitions) :
      Reached settings registrarSettings
        { deployment.withNaming server with definitions := definitions }

/-- While some turns are taken, the name server never fails and nobody but the registrar
writes into a definition. -/
def LeftAlone (id : DefinitionId) : List Turn → Deployment (NameServer Payload) → Prop
  | [], _ => True
  | turn :: rest, deployment =>
      turn.outage = .none ∧ turn.definitions.get id = deployment.definitions.get id ∧
        LeftAlone id rest ((deployment.meeting turn).perform turn.operation)

/-- Whether a registration may give a definition of this name to an application. -/
def isClaimable (deployment : Deployment (NameServer Payload)) (id : DefinitionId) : Bool :=
  Text.begins deployment.registrar.settings.applicationScope (deployment.nameOf id)

variable {settings : Settings} {registrarSettings : Option Settings}
  {deployment : Deployment (NameServer Payload)}

/-! ## What turns leave alone -/

/-- What every call preserves, an operation preserves. -/
theorem perform_preserves (invariant : Deployment (NameServer Payload) → Prop)
    (step : ∀ current made, invariant current → invariant (current.call made).2)
    (deployment : Deployment (NameServer Payload)) (operation : Operation)
    (holds : invariant deployment) : invariant (deployment.perform operation) := by
  rw [perform_eq_calls]
  generalize operation.calls = calls
  induction calls generalizing deployment with
  | nil => exact holds
  | cons made rest ih => exact ih _ (step deployment made holds)

theorem sound_call (sound : deployment.registrar.Sound) (made : Call) :
    (deployment.call made).2.registrar.Sound := by
  cases made with
  | register application id payload =>
      exact (register_registers deployment application id _).sound sound
  | unregister application id =>
      exact (unregister_unregisters deployment application id).sound sound

theorem outage_call (deployment : Deployment (NameServer Payload)) (made : Call) :
    (deployment.call made).2.registrar.naming.outage = deployment.registrar.naming.outage := by
  cases made with
  | register application id payload =>
      exact (register_registers deployment application id _).outage_eq
  | unregister application id =>
      exact (unregister_unregisters deployment application id).outage_eq

theorem nameOf_call (deployment : Deployment (NameServer Payload)) (made : Call)
    (id : DefinitionId) : (deployment.call made).2.nameOf id = deployment.nameOf id := by
  cases made with
  | register application visited payload =>
      exact nameOf_register deployment application visited id _
  | unregister application visited => rfl

/-- A definition outside the application scope is never written. -/
theorem get_call (deployment : Deployment (NameServer Payload)) (made : Call)
    {id : DefinitionId} (outside : deployment.isClaimable id = false) :
    (deployment.call made).2.definitions.get id = deployment.definitions.get id := by
  cases made with
  | register application visited payload =>
      simp only [call, register, Definitions.get_set]
      split
      next here =>
          rw [isClaimable, nameOf, here.1] at outside
          rw [here.1, claim, claims, outside, Bool.and_false, if_neg Bool.false_ne_true]
      next => rfl
  | unregister application visited => rfl

theorem Reached.sound (reached : Reached settings registrarSettings deployment) :
    deployment.registrar.Sound := by
  induction reached with
  | start server => exact sound_start _ server
  | turn _ turn ih =>
      apply perform_preserves fun current => current.registrar.Sound
      · intro current made sound
        exact sound_call sound made
      · exact ih.congr rfl rfl
  | elsewhere _ server definitions ih => exact ih.congr rfl rfl

theorem Reached.run (reached : Reached settings registrarSettings deployment)
    (turns : List Turn) : Reached settings registrarSettings (deployment.run turns) := by
  induction turns generalizing deployment with
  | nil => exact reached
  | cons turn rest ih => exact ih (reached.turn turn)

theorem Reached.settings_eq (reached : Reached settings registrarSettings deployment) :
    deployment.registrar.settings = registrarSettings.getD settings := by
  induction reached with
  | start server => rfl
  | turn _ turn ih => exact (settings_perform _ turn.operation).trans ih
  | elsewhere _ server definitions ih => exact ih

/-- What a definition keeps while it is left alone. -/
structure Keeps (before : Deployment (NameServer Payload)) (id : DefinitionId)
    (deployment : Deployment (NameServer Payload)) : Prop where
  inService : deployment.registrar.naming.outage = .none
  sound : deployment.registrar.Sound
  rules : deployment.registrar.settings = before.registrar.settings
  settings : deployment.settings = before.settings
  named : deployment.nameOf id = before.nameOf id
  owned : before.isClaimable id = false →
    deployment.definitions.get id = before.definitions.get id

/-- The key of a definition changes only with its owner. -/
theorem Keeps.directKey_eq {before : Deployment (NameServer Payload)} {id : DefinitionId}
    (keeps : Keeps before id deployment)
    (owned : (deployment.definitions.get id).owner = (before.definitions.get id).owner) :
    deployment.directKey id = before.directKey id := by
  have named : (deployment.definitions.get id).name = (before.definitions.get id).name :=
    keeps.named
  simp only [directKey, resourceOf, owned, named, keeps.settings]

theorem Keeps.call {before : Deployment (NameServer Payload)} {id : DefinitionId}
    (keeps : Keeps before id deployment) (made : Call) :
    Keeps before id (deployment.call made).2 where
  inService := (outage_call deployment made).trans keeps.inService
  sound := sound_call keeps.sound made
  rules := (settings_call deployment made).trans keeps.rules
  settings := by
    cases made with
    | register => exact keeps.settings
    | unregister => exact keeps.settings
  named := (nameOf_call deployment made id).trans keeps.named
  owned := by
    intro outside
    have still : deployment.isClaimable id = false := by
      rw [isClaimable, keeps.rules, keeps.named]
      exact outside
    exact (get_call deployment made still).trans (keeps.owned outside)

theorem Keeps.run {before : Deployment (NameServer Payload)} {id : DefinitionId}
    (keeps : Keeps before id deployment) {turns : List Turn}
    (alone : deployment.LeftAlone id turns) : Keeps before id (deployment.run turns) := by
  induction turns generalizing deployment with
  | nil => exact keeps
  | cons turn rest ih =>
      obtain ⟨inService, same, later⟩ := alone
      refine ih ?_ later
      apply perform_preserves (Keeps before id)
      · intro current made held
        exact held.call made
      · constructor
        case inService => exact inService
        case sound => exact keeps.sound.congr rfl rfl
        case rules => exact keeps.rules
        case settings => exact keeps.settings
        case named => exact (congrArg MailSession.name same).trans keeps.named
        case owned => exact fun outside => same.trans (keeps.owned outside)

/-! ## What events reach -/

theorem shared_of_eventOf (sound : deployment.registrar.Sound) (made : Call)
    {event : Event Payload} (member : event ∈ deployment.eventOf made) :
    deployment.registrar.settings.isShared event.place.2 = true := by
  cases made with
  | register application id payload =>
      exact (register_registers deployment application id _).shared_of_event member
  | unregister application id => exact shared_of_event_unregister sound member

theorem lookup_call (sound : deployment.registrar.Sound) (made : Call) {key : BindingKey}
    (apart : ∀ event ∈ deployment.eventOf made, bindingKey event.place.1 event.place.2 ≠ key) :
    (deployment.call made).2.registrar.lookup key = deployment.registrar.lookup key := by
  cases made with
  | register application id payload =>
      exact (register_registers deployment application id _).lookup_of_events apart
  | unregister application id =>
      exact (unregister_unregisters deployment application id).lookup_of_events sound.keyed apart

/-- The events of calls are about shared names, and what is bound to a key that they are
not about stays bound. -/
theorem events_of_calls (sound : deployment.registrar.Sound) (calls : List Call) :
    (callEach calls deployment).registrar.Sound ∧
    (∀ event ∈ eventsOf calls deployment,
      deployment.registrar.settings.isShared event.place.2 = true) ∧
    ∀ key, (∀ event ∈ eventsOf calls deployment,
        bindingKey event.place.1 event.place.2 ≠ key) →
      (callEach calls deployment).registrar.lookup key = deployment.registrar.lookup key := by
  induction calls generalizing deployment with
  | nil =>
      refine ⟨sound, ?_, fun key _ => rfl⟩
      intro event member
      cases member
  | cons made rest ih =>
      obtain ⟨still, shared, kept⟩ := ih (sound_call sound made)
      rw [settings_call] at shared
      refine ⟨still, ?_, ?_⟩
      · intro event member
        rcases List.mem_append.mp member with now | later
        · exact shared_of_eventOf sound made now
        · exact shared event later
      · intro key apart
        refine (kept key ?_).trans (lookup_call sound made ?_)
        · exact fun event later => apart event (List.mem_append_right _ later)
        · exact fun event now => apart event (List.mem_append_left _ now)

theorem events_of_turns (sound : deployment.registrar.Sound) (turns : List Turn) :
    (∀ event ∈ history turns deployment,
      deployment.registrar.settings.isShared event.place.2 = true) ∧
    ∀ key, (∀ event ∈ history turns deployment,
        bindingKey event.place.1 event.place.2 ≠ key) →
      (deployment.run turns).registrar.lookup key = deployment.registrar.lookup key := by
  induction turns generalizing deployment with
  | nil =>
      refine ⟨?_, fun key _ => rfl⟩
      intro event member
      cases member
  | cons turn rest ih =>
      have met : (deployment.meeting turn).registrar.Sound := sound.congr rfl rfl
      obtain ⟨still, sharedNow, keptNow⟩ := events_of_calls met turn.operation.calls
      rw [← perform_eq_calls] at still keptNow
      obtain ⟨sharedLater, keptLater⟩ := ih still
      rw [settings_perform] at sharedLater
      constructor
      · intro event member
        rcases List.mem_append.mp member with now | later
        · exact sharedNow event now
        · exact sharedLater event later
      · intro key apart
        refine (keptLater key ?_).trans (keptNow key ?_)
        · exact fun event later => apart event (List.mem_append_right _ later)
        · exact fun event now => apart event (List.mem_append_left _ now)

/-! ## Deploying and undeploying -/

/-- The deployment without a binding. -/
def without (deployment : Deployment (NameServer Payload)) (key : BindingKey) :
    Deployment (NameServer Payload) :=
  { deployment with registrar := deployment.registrar.unbound key }

theorem deploy_eq (inService : deployment.registrar.naming.outage = .none)
    (id : DefinitionId) :
    (deployment.deploy id).1 = .ok .done ∧
      (deployment.deploy id).2.registrar.lookup (deployment.directKey id) =
        some (.mailResource (deployment.resourceOf id)) := by
  have served : deployment.registrar.naming.outage.bind (deployment.directKey id).name =
      false := by
    rw [inService]
    rfl
  have answer := deployment.registrar.naming.bind_again (deployment.directKey id)
    (.mailResource (deployment.resourceOf id))
  rw [served, if_neg Bool.false_ne_true] at answer
  constructor
  · simp only [deploy, NamingService.bind, answer]
    rfl
  · simp only [deploy, NamingService.bind, answer]
    exact OrderedMap.get?_insert_self _ _ _

theorem undeploy_eq (inService : deployment.registrar.naming.outage = .none)
    {id : DefinitionId} {payload : Payload}
    (bound : deployment.registrar.lookup (deployment.directKey id) = some payload) :
    deployment.undeploy id = (.ok .done, deployment.without (deployment.directKey id)) := by
  have served : deployment.registrar.naming.outage.unbind (deployment.directKey id).name =
      false := by
    rw [inService]
    rfl
  have present : deployment.registrar.naming.directory.isBound (deployment.directKey id) =
      true := by
    rw [Directory.isBound, OrderedMap.contains]
    exact Option.isSome_of_eq_some bound
  simp only [undeploy, NamingService.unbind, NameServer.unbind, served, Directory.unbind,
    present, Bool.false_eq_true, if_false, if_true]
  rfl

/-- A deployment reaches no key but that of the definition. -/
theorem lookup_deploy (deployment : Deployment (NameServer Payload)) (id : DefinitionId)
    {key : BindingKey} (away : deployment.directKey id ≠ key) :
    (deployment.deploy id).2.registrar.lookup key = deployment.registrar.lookup key := by
  simp only [deploy, NamingService.bind, NameServer.bind_again]
  split
  next => rfl
  next => exact OrderedMap.get?_insert_of_ne _ _ (Ne.symm away)

/-- An undeployment reaches no key but that which the definition has now. -/
theorem lookup_undeploy (deployment : Deployment (NameServer Payload)) (id : DefinitionId)
    {key : BindingKey} (away : deployment.directKey id ≠ key) :
    (deployment.undeploy id).2.registrar.lookup key = deployment.registrar.lookup key := by
  simp only [undeploy, NamingService.unbind, NameServer.unbind]
  split
  next => rfl
  next =>
      split
      next directory success =>
          exact (Directory.lookup_of_unbind success key).trans (if_neg (Ne.symm away))
      next => rfl

theorem keeps_deploy (sound : deployment.registrar.Sound)
    (inService : deployment.registrar.naming.outage = .none) (id : DefinitionId) :
    Keeps deployment id (deployment.deploy id).2 where
  inService := by
    rw [← inService]
    simp only [deploy, NamingService.bind, NameServer.bind_again]
    split <;> rfl
  sound := sound.congr rfl rfl
  rules := rfl
  settings := rfl
  named := rfl
  owned := fun _ => rfl

/-- A direct deployment over a name server in service succeeds.  Its binding stays as long
as no event concerns it, and if the definition still has its owner, the undeployment
removes exactly this binding.  The owner can have changed only in the application scope,
and then the undeployment does not reach the binding. -/
theorem undeploy_undoes_deploy (settings : Settings) (registrarSettings : Option Settings)
    (before : Deployment (NameServer Payload))
    (reached : Reached settings registrarSettings before)
    (inService : before.registrar.naming.outage = .none) (id : DefinitionId)
    (turns : List Turn) :
    let rules := registrarSettings.getD settings
    let key := before.directKey id
    let deployed := (before.deploy id).2
    let after := deployed.run turns
    deployed.LeftAlone id turns →
    (rules.isShared key.name = true →
      ∀ event ∈ history turns deployed, bindingKey event.place.1 event.place.2 ≠ key) →
    (before.deploy id).1 = .ok .done ∧
    after.registrar.lookup key = some (.mailResource (before.resourceOf id)) ∧
    ((after.definitions.get id).owner = (before.definitions.get id).owner →
      after.undeploy id = (.ok .done, after.without key)) ∧
    ((after.definitions.get id).owner ≠ (before.definitions.get id).owner →
      Text.begins rules.applicationScope (before.nameOf id) = true ∧
      (after.undeploy id).2.registrar.lookup key =
        some (.mailResource (before.resourceOf id))) := by
  intro rules key deployed after alone apart
  obtain ⟨done, bound⟩ := deploy_eq inService id
  have keeps : Keeps before id after := (keeps_deploy reached.sound inService id).run alone
  have same : before.registrar.settings = rules := reached.settings_eq
  have sound : deployed.registrar.Sound := reached.sound.congr rfl rfl
  obtain ⟨shared, kept⟩ := events_of_turns sound turns
  have still : after.registrar.lookup key = some (.mailResource (before.resourceOf id)) := by
    refine (kept key ?_).trans bound
    intro event member equal
    have visible : rules.isShared key.name = true := by
      rw [← equal, ← same]
      exact shared event member
    exact apart visible event member equal
  refine ⟨done, still, ?_, ?_⟩
  · intro owned
    have unmoved : after.directKey id = key := keeps.directKey_eq owned
    rw [← unmoved] at still ⊢
    exact undeploy_eq keeps.inService still
  · intro given
    constructor
    · cases claimable : before.isClaimable id with
      | true =>
          rw [isClaimable, same] at claimable
          exact claimable
      | false => exact (given (congrArg MailSession.owner (keeps.owned claimable))).elim
    · refine (lookup_undeploy after id ?_).trans still
      intro equal
      exact given (congrArg BindingKey.application equal)

/-- A deployment of one definition, whose name is in the application scope. -/
def ofMail (owner : Option String) : Deployment (NameServer Payload) :=
  { start {} none .start with
    definitions := ⟨[{ MailSession.blank with name := "java:app/mail", owner := owner }]⟩ }

/-- The turn in which a definition is registered for the shop. -/
def forShop (deployment : Deployment (NameServer Payload)) (id : DefinitionId) : Turn :=
  ⟨.none, deployment.definitions, .register "shop" id (.value .null)⟩

theorem undeploy_undoes_deploy_owned :
    let before := ofMail (some "shop")
    let after := (before.deploy 0).2.run [before.forShop 0]
    (before.deploy 0).1 = .ok .done ∧ (after.undeploy 0).1 = .ok .done := by
  have hidden : ¬ ({} : Settings).isShared ((ofMail (some "shop")).directKey 0).name = true := by
    decide +kernel
  have owned : ((((ofMail (some "shop")).deploy 0).2.run
      [(ofMail (some "shop")).forShop 0]).definitions.get 0).owner = some "shop" := by
    decide +kernel
  have undone := undeploy_undoes_deploy {} none (ofMail (some "shop"))
    (.elsewhere (.start .start) .start (ofMail (some "shop")).definitions) rfl 0
    [(ofMail (some "shop")).forShop 0] ⟨rfl, rfl, trivial⟩ (fun shared => (hidden shared).elim)
  exact ⟨undone.1, congrArg Prod.fst (undone.2.2.1 owned)⟩

/-- A deployment in which the resource name of the first definition is the name of the
second. -/
def ofTwins : Deployment (NameServer Payload) :=
  { start { sessionNamespace := "java:app/" } none .start with
    definitions := ⟨
      [ { MailSession.blank with name := "mail", owner := some "shop" },
        { MailSession.blank with name := "java:app/mail", owner := some "shop" } ]⟩ }

/-- A direct deployment is not undone if its definition is given to another application
in between, nor if a definition that is named like its resource is published and
withdrawn. -/
theorem undeploy_misses_deployment :
    (let before := ofMail none
    let turns := [before.forShop 0]
    let deployed := (before.deploy 0).2
    let after := deployed.run turns
    Reached {} none before ∧ (before.deploy 0).1 = .ok .done ∧ deployed.LeftAlone 0 turns ∧
      (after.undeploy 0).1 = .error (.notBound (after.directKey 0)) ∧
      before.directKey 0 ∈ (after.undeploy 0).2.registrar.boundKeys) ∧
    (let before := ofTwins
    let turns := [before.forShop 1, ⟨.none, before.definitions, .unregister "shop" 1⟩]
    let deployed := (before.deploy 0).2
    let after := deployed.run turns
    Reached { sessionNamespace := "java:app/" } none before ∧
      (before.deploy 0).1 = .ok .done ∧ deployed.LeftAlone 0 turns ∧
      (after.undeploy 0).1 = .error (.notBound (before.directKey 0))) := by
  refine ⟨⟨?reached, rfl, ⟨rfl, rfl, trivial⟩, rfl, ?bound⟩,
    ?reachedTwins, rfl, ⟨rfl, rfl, rfl, rfl, trivial⟩, rfl⟩
  case reached => exact .elsewhere (.start .start) .start (ofMail none).definitions
  case bound => decide +kernel
  case reachedTwins => exact .elsewhere (.start .start) .start ofTwins.definitions

end ServerResources.Deployment
