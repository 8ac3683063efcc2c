import ServerResources.Proofs.Deployment.Disturbance
import ServerResources.Proofs.Deployment.Share
import ServerResources.Proofs.Naming.Scopes

/-!
# Resource names of what is bound

A mail resource gets its name before its definition is registered, and registration may
then give the definition to another owner.  The name that a consumer finds is still the
one that the definition has now, because a definition that changes its owner is in the
scope of the application, where resource names have no owner in front.

This holds for all definitions exactly if the scope of the application overlaps neither
that of components nor that of modules.  Otherwise a name lies in two scopes, and the
first registration under it binds a mail resource with a name that its definition no
longer has.
-/

namespace ServerResources

/-- An application with a single mail session, in the environment of its only bundle. -/
def Application.ofSession (name : String) (session : MailSession) : Application MailSession :=
  ⟨name, [⟨"bundle", .web, [session], [], [], [], []⟩]⟩

namespace Deployment

open Registrar

/-- The deployments that come about by installing applications and by registering and
withdrawing mail sessions one after another.  The sessions may be all that the walk of an
application visits, as in `registerAll` and `unregisterAll`, or some of them: a batch that
meets several outages is several steps.  The registrar has the settings of the deployment. -/
inductive ByBatches (settings : Settings) : Deployment (NameServer Payload) → Prop where
  | start : ByBatches settings (start settings none .start)
  | disturbed {deployment : Deployment (NameServer Payload)}
      (reached : ByBatches settings deployment) (outage : Outage) :
      ByBatches settings (deployment.during outage)
  | installed {deployment : Deployment (NameServer Payload)}
      (reached : ByBatches settings deployment) (application : Application MailSession) :
      ByBatches settings (deployment.installing application)
  | registered {deployment : Deployment (NameServer Payload)}
      (reached : ByBatches settings deployment) (application : String)
      (ids : List DefinitionId)
      (known : ∀ id ∈ ids, id < deployment.definitions.sessions.length) :
      ByBatches settings (registerEach application ids deployment).2
  | withdrawn {deployment : Deployment (NameServer Payload)}
      (reached : ByBatches settings deployment) (application : String)
      (ids : List DefinitionId) :
      ByBatches settings (unregisterEach application ids deployment).2

/-- Every published name is bound to a mail resource of a definition of this name, and
the mail resource is named as the definition, with the owner that it has now, names it. -/
def ResourcesCurrent (deployment : Deployment (NameServer Payload)) : Prop :=
  ∀ application name, deployment.registrar.isPublished application name = true →
    ∃ id, (deployment.definitions.get id).name = name ∧
      deployment.registrar.lookup (bindingKey application name) =
        some (.mailResource
          ⟨id, deployment.settings.resourceName (deployment.definitions.get id).owner name⟩)

variable {settings : Settings} {deployment : Deployment (NameServer Payload)}

/-! ## Scopes that are apart -/

/-- Who owns a session in the scope of the application does not matter for its name. -/
theorem resourceName_claim (apart : settings.ScopesApart)
    (registrar : Registrar (NameServer Payload)) (rules : registrar.settings = settings)
    (application : String) (session : MailSession) :
    settings.resourceName (registrar.claim application session).owner session.name =
      settings.resourceName session.owner session.name := by
  unfold claim
  split
  next claimed =>
      rw [claims, Bool.and_eq_true, rules] at claimed
      have notOwned := apart.isOwned_eq_false claimed.2
      rw [Settings.resourceName_of_not_owned notOwned, Settings.resourceName_of_not_owned notOwned]
  next => rfl

/-- What holds between two batches: every published name is bound to the mail resource that
its definition would get now. -/
structure KeepsNames (settings : Settings) (deployment : Deployment (NameServer Payload)) :
    Prop where
  settings_eq : deployment.settings = settings
  rules_eq : deployment.registrar.settings = settings
  keyed : deployment.registrar.Keyed
  bound : ∀ application name, deployment.registrar.isPublished application name = true →
    ∃ id, id < deployment.definitions.sessions.length ∧ deployment.nameOf id = name ∧
      deployment.registrar.lookup (bindingKey application name) =
        some (.mailResource (deployment.resourceOf id))

namespace KeepsNames

theorem resourcesCurrent (keeps : KeepsNames settings deployment) :
    deployment.ResourcesCurrent := by
  intro application name published
  rcases keeps.bound application name published with ⟨id, -, rfl, found⟩
  exact ⟨id, rfl, found⟩

/-- A registration changes the mail resource of no definition. -/
theorem resourceOf_register (keeps : KeepsNames settings deployment)
    (apart : settings.ScopesApart) (application : String) (visited id : DefinitionId)
    (payload : Payload) :
    (deployment.register application visited payload).2.resourceOf id =
      deployment.resourceOf id := by
  have name : (deployment.register application visited payload).2.settings.resourceName
      ((deployment.register application visited payload).2.definitions.get id).owner
      ((deployment.register application visited payload).2.definitions.get id).name =
        deployment.settings.resourceName (deployment.definitions.get id).owner
          (deployment.definitions.get id).name := by
    simp only [register, Definitions.get_set, keeps.settings_eq]
    split
    next here =>
        rw [here.1, name_claim]
        exact resourceName_claim apart deployment.registrar keeps.rules_eq application _
    next => rfl
  exact congrArg (MailResource.mk id) name

theorem enroll (keeps : KeepsNames settings deployment) (apart : settings.ScopesApart)
    (application : String) {id : DefinitionId}
    (known : id < deployment.definitions.sessions.length) :
    KeepsNames settings (deployment.enroll application id).2 := by
  have call := register_registers deployment application id
    (.mailResource (deployment.resourceOf id))
  constructor
  case settings_eq => exact keeps.settings_eq
  case rules_eq => exact call.settings_eq.trans keeps.rules_eq
  case keyed => exact call.keyed keeps.keyed
  case bound =>
    intro owner name published
    have entry : (owner, name) = (application, deployment.nameOf id) ∧
          (deployment.enroll application id).1 = true ∨
        deployment.registrar.isPublished owner name = true := by
      rw [isPublished, OrderedMap.contains, Deployment.enroll, call.get?_published] at published
      split at published
      next new => exact .inl new.symm
      next => exact .inr published
    simp only [Deployment.enroll, length_register, nameOf_register, call.lookup_eq,
      keeps.resourceOf_register apart]
    split
    next own =>
        rcases bindingKey_inj.mp own.2 with ⟨rfl, rfl⟩
        exact ⟨id, known, rfl, rfl⟩
    next elsewhere =>
        rcases entry with ⟨place, granted⟩ | old
        · cases place
          exact (elsewhere ⟨granted, rfl⟩).elim
        · exact keeps.bound owner name old

theorem registerEach (keeps : KeepsNames settings deployment) (apart : settings.ScopesApart)
    (application : String) (ids : List DefinitionId)
    (known : ∀ id ∈ ids, id < deployment.definitions.sessions.length) :
    KeepsNames settings (registerEach application ids deployment).2 := by
  induction ids generalizing deployment with
  | nil => exact keeps
  | cons id rest ih =>
      rw [registerEach_cons]
      apply ih (keeps.enroll apart application (known id List.mem_cons_self))
      intro later member
      rw [Deployment.enroll, length_register]
      exact known later (List.mem_cons_of_mem id member)

theorem unregister (keeps : KeepsNames settings deployment) (application : String)
    (id : DefinitionId) : KeepsNames settings (deployment.unregister application id).2 := by
  have call := unregister_unregisters deployment application id
  constructor
  case settings_eq => exact keeps.settings_eq
  case rules_eq => exact call.settings_eq.trans keeps.rules_eq
  case keyed => exact call.keyed keeps.keyed
  case bound =>
    intro owner name published
    rw [isPublished, OrderedMap.contains, call.get?_published] at published
    split at published
    next => cases published
    next elsewhere =>
        rw [call.lookup_eq keeps.keyed, if_neg fun both => bindingKey_ne elsewhere both.2]
        exact keeps.bound owner name published

theorem installing (keeps : KeepsNames settings deployment)
    (application : Application MailSession) :
    KeepsNames settings (deployment.installing application) where
  settings_eq := keeps.settings_eq
  rules_eq := keeps.rules_eq
  keyed := keeps.keyed
  bound := by
    intro owner name published
    rcases keeps.bound owner name published with ⟨id, known, named, found⟩
    have kept := deployment.definitions.get_install_of_lt application known
    refine ⟨id, ?_, ?_, ?_⟩
    · rw [Deployment.installing, Definitions.sessions_install, List.length_append]
      exact Nat.lt_add_right _ known
    · rw [nameOf, Deployment.installing, kept]
      exact named
    · simp only [resourceOf, Deployment.installing, kept]
      exact found

end KeepsNames

theorem ByBatches.keepsNames (reached : ByBatches settings deployment)
    (apart : settings.ScopesApart) : KeepsNames settings deployment := by
  induction reached with
  | start =>
      constructor
      case settings_eq => rfl
      case rules_eq => rfl
      case keyed => exact (sound_start settings .start).keyed
      case bound =>
        intro application name published
        cases published
  | disturbed _ outage ih => exact ⟨ih.settings_eq, ih.rules_eq, ih.keyed, ih.bound⟩
  | installed _ application ih => exact ih.installing application
  | registered _ application ids known ih => exact ih.registerEach apart application ids known
  | withdrawn _ application ids ih =>
      apply unregisterEach_preserves (KeepsNames settings)
      · intro current id keeps
        exact keeps.unregister application id
      · exact ih

/-! ## Scopes that overlap -/

/-- A definition whose name is both in the scope of the application and unique only within
its owner is bound under the resource name that it had before it was given away. -/
theorem not_resourcesCurrent_enroll {application : String} {id : DefinitionId}
    (given : application ≠ "") (known : id < deployment.definitions.sessions.length)
    (unowned : (deployment.definitions.get id).owner = none)
    (unpublished : deployment.registrar.isPublished application (deployment.nameOf id) = false)
    (inService : deployment.registrar.naming.outage.bind (deployment.nameOf id) = false)
    (inScope : Text.begins deployment.registrar.settings.applicationScope (deployment.nameOf id) =
      true)
    (owned : deployment.settings.isOwned (deployment.nameOf id) = true) :
    ¬ (deployment.enroll application id).2.ResourcesCurrent := by
  intro current
  have call := register_registers deployment application id
    (.mailResource (deployment.resourceOf id))
  have granted : (deployment.enroll application id).1 = true := by
    rw [Deployment.enroll, call.result_eq, accepts, unpublished, inService, Settings.isShared,
      inScope]
    rfl
  have published : (deployment.enroll application id).2.registrar.isPublished application
      (deployment.nameOf id) = true := by
    rw [isPublished, OrderedMap.contains, Deployment.enroll, call.get?_published,
      if_pos ⟨granted, rfl⟩]
    rfl
  have claimed : ((deployment.enroll application id).2.definitions.get id).owner =
      some application := by
    have claimable : deployment.registrar.claims application (deployment.nameOf id) = true := by
      rw [claims, unpublished, inScope]
      rfl
    rw [Deployment.enroll, get_register_self deployment application _ known, claim]
    exact congrArg MailSession.owner (if_pos claimable)
  rcases current application (deployment.nameOf id) published with ⟨visited, -, found⟩
  rw [Deployment.enroll, call.lookup_eq, if_pos ⟨granted, rfl⟩, ← Deployment.enroll,
    Option.some.injEq, Payload.mailResource.injEq, resourceOf, MailResource.mk.injEq] at found
  rcases found with ⟨rfl, named⟩
  rw [claimed, unowned] at named
  exact Settings.resourceName_some_ne_none given owned named.symm

/-- What a consumer finds under a published name is named as its definition names it now, in
every state that batches lead to, exactly for those settings in which no name is both in
the scope of the application and in that of a component or a module. -/
theorem bound_resources_current (settings : Settings) :
    (settings.ScopesApart →
      ∀ deployment, ByBatches settings deployment → deployment.ResourcesCurrent) ∧
    (¬ settings.ScopesApart →
      ∃ session, ∀ application, application ≠ "" →
        ¬ ((start settings none .start).entering
          (.ofSession application session)).ResourcesCurrent) := by
  constructor
  · intro apart deployment reached
    exact (reached.keepsNames apart).resourcesCurrent
  · intro overlapping
    rcases Settings.exists_owned_of_not_apart overlapping with ⟨name, inScope, owned⟩
    refine ⟨{ MailSession.blank with name := name }, ?_⟩
    intro application given
    have registration : (start settings none .start).entering
        (.ofSession application { MailSession.blank with name := name }) =
          (((start settings none .start).installing
            (.ofSession application { MailSession.blank with name := name })).enroll
              application 0).2 := rfl
    rw [registration]
    apply not_resourcesCurrent_enroll given
    case known => exact Nat.zero_lt_one
    case unowned => rfl
    case unpublished => rfl
    case inService => rfl
    case inScope => exact inScope
    case owned => exact owned

/-- Settings under which the names of modules are in the scope of the application. -/
def nestedScopes : Settings :=
  { moduleScope := "java:app/module/" }

theorem bound_resources_current_shop :
    ({} : Settings).ScopesApart ∧
    ((start {} none .start).entering (.ofSession "shop"
      { MailSession.blank with name := "java:app/mail" })).ResourcesCurrent ∧
    ¬ nestedScopes.ScopesApart ∧
    ∃ session, ¬ ((start nestedScopes none .start).entering
      (.ofSession "shop" session)).ResourcesCurrent := by
  have apart : ({} : Settings).ScopesApart := by
    decide +kernel
  have nested : ¬ nestedScopes.ScopesApart := by
    decide +kernel
  have reached : ByBatches {} ((start {} none .start).entering (.ofSession "shop"
      { MailSession.blank with name := "java:app/mail" })) := by
    apply ByBatches.registered
    · exact .installed .start _
    · intro id walked
      exact (bounds_of_mem_walk_installed _ _ walked).2
  rcases (bound_resources_current nestedScopes).2 nested with ⟨session, broken⟩
  exact ⟨apart, (bound_resources_current {}).1 apart _ reached, nested, session,
    broken "shop" (by decide)⟩

end Deployment

end ServerResources
