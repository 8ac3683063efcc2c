import ServerResources.Proofs.Deployment.Direct
import ServerResources.Proofs.Deployment.Disturbance
import ServerResources.Proofs.Deployment.Share
import ServerResources.Proofs.Registrar.Remainder

/-!
# Cleaning up

What is published and what is bound may have drifted apart: a refused withdrawal leaves a
binding behind that no later withdrawal finds, and a binding may be removed behind the
registrar's back.  Once the naming service is in service again, an application is cleaned
up by registering and withdrawing it.

The registration need not repair anything.  It is enough that each name which the
application shows is published afterwards, whether by this registration, which binds the
key again, or before: the withdrawal then meets all of these names, and in service no key
of a published name survives its withdrawal.  Neither batch is seen in what is left without
these names.
-/

namespace ServerResources.Deployment

open Registrar

/-- The names that an application of the deployment shows outside its bundles, each in
the place of its first visit. -/
def shownNames (deployment : Deployment (NameServer Payload))
    (application : Application DefinitionId) : List String :=
  (application.map deployment.definitions.get).sharedNames deployment.registrar.settings

variable {settings : Settings} {registrarSettings : Option Settings}
  {deployment : Deployment (NameServer Payload)} {application : String}

theorem shownNames_eq (deployment : Deployment (NameServer Payload))
    (application : Application DefinitionId) :
    deployment.shownNames application =
      ((application.walk.map deployment.nameOf).filter
        deployment.registrar.settings.isShared).eraseDups := by
  rw [shownNames, Application.sharedNames, Application.walk_map, List.map_map]
  rfl

theorem mem_shownNames_iff (deployment : Deployment (NameServer Payload))
    (application : Application DefinitionId) (name : String) :
    name ∈ deployment.shownNames application ↔
      name ∈ application.walk.map deployment.nameOf ∧
        deployment.registrar.settings.isShared name = true := by
  rw [shownNames_eq, List.mem_eraseDups, List.mem_filter]

/-! ## The registration -/

theorem nameOf_registerEach (ids : List DefinitionId) (id : DefinitionId) :
    (registerEach application ids deployment).2.nameOf id = deployment.nameOf id := by
  apply registerEach_preserves fun current => current.nameOf id = deployment.nameOf id
  · intro current visited payload same
    rw [nameOf_register, same]
  · rfl

theorem sound_registerEach (sound : deployment.registrar.Sound) (ids : List DefinitionId) :
    (registerEach application ids deployment).2.registrar.Sound := by
  apply registerEach_preserves fun current => current.registrar.Sound
  · intro current id payload still
    exact (register_registers current application id payload).sound still
  · exact sound

theorem outage_registerEach (ids : List DefinitionId) :
    (registerEach application ids deployment).2.registrar.naming.outage =
      deployment.registrar.naming.outage := by
  apply registerEach_preserves
    (fun current : Deployment (NameServer Payload) =>
      current.registrar.naming.outage = deployment.registrar.naming.outage)
  · intro current id payload same
    rw [(register_registers current application id payload).outage_eq, same]
  · rfl

/-- A batch of registrations is seen only in the names that it shows. -/
theorem remainder_registerEach {names : List String} (ids : List DefinitionId)
    (covered : ∀ id ∈ ids,
      deployment.registrar.settings.isShared (deployment.nameOf id) = true →
        deployment.nameOf id ∈ names) :
    (registerEach application ids deployment).2.registrar.publishedBut application names =
        deployment.registrar.publishedBut application names ∧
      (registerEach application ids deployment).2.registrar.bindingsBut application names =
        deployment.registrar.bindingsBut application names := by
  induction ids generalizing deployment with
  | nil => exact ⟨rfl, rfl⟩
  | cons id rest ih =>
      have call := register_registers deployment application id
        (.mailResource (deployment.resourceOf id))
      obtain ⟨published, bindings⟩ := call.remainder_eq (covered id List.mem_cons_self)
      have still : ∀ other ∈ rest,
          (deployment.enroll application id).2.registrar.settings.isShared
              ((deployment.enroll application id).2.nameOf other) = true →
            (deployment.enroll application id).2.nameOf other ∈ names := by
        intro other member
        rw [enroll, nameOf_register, call.settings_eq]
        exact covered other (List.mem_cons_of_mem _ member)
      obtain ⟨later, further⟩ := ih still
      exact ⟨later.trans published, further.trans bindings⟩

/-- After a registration in service those of the visited names are published that are
shared. -/
theorem isPublished_registerEach (sound : deployment.registrar.Sound)
    (inService : deployment.registrar.naming.outage = .none) (ids : List DefinitionId)
    {name : String} (visited : name ∈ ids.map deployment.nameOf) :
    (registerEach application ids deployment).2.registrar.isPublished application name =
      deployment.registrar.settings.isShared name := by
  rw [Bool.eq_iff_iff]
  constructor
  · intro published
    rw [isPublished, OrderedMap.contains, Option.isSome_iff_exists] at published
    obtain ⟨key, found⟩ := published
    have shared := (sound_registerEach sound ids).shared application name key found
    rw [settings_registerEach] at shared
    exact shared
  · intro shared
    rw [isPublished_registerEach_iff]
    refine .inr ⟨visited, ?_⟩
    simp [accepts, shared, inService, Outage.none]

/-- If a published name was bound, it still is, and a name that becomes published is
bound. -/
theorem mem_boundKeys_registerEach {name : String} (ids : List DefinitionId)
    (bound : deployment.registrar.isPublished application name = true →
      bindingKey application name ∈ deployment.registrar.boundKeys) :
    (registerEach application ids deployment).2.registrar.isPublished application name = true →
      bindingKey application name ∈
        (registerEach application ids deployment).2.registrar.boundKeys := by
  apply registerEach_preserves
    (fun current : Deployment (NameServer Payload) =>
      current.registrar.isPublished application name = true →
        bindingKey application name ∈ current.registrar.boundKeys)
  · intro current id payload still
    exact (register_registers current application id payload).mem_boundKeys still
  · exact bound

/-! ## The withdrawal -/

/-- A batch of withdrawals removes the visited names and nothing else. -/
theorem published_unregisterEach (ids : List DefinitionId)
    (deployment : Deployment (NameServer Payload)) :
    (unregisterEach application ids deployment).2.registrar.published =
      deployment.registrar.publishedBut application (ids.map deployment.nameOf) := by
  induction ids generalizing deployment with
  | nil =>
      apply Eq.symm
      apply OrderedMap.without_eq_self
      intro place member
      cases member
  | cons id rest ih =>
      have call := unregister_unregisters deployment application id
      exact (ih _).trans (call.publishedBut_eq _)

/-- In service it unbinds the keys of those visited names that are published, and
nothing else. -/
theorem bindings_unregisterEach_of_inService (keyed : deployment.registrar.Keyed)
    (inService : deployment.registrar.naming.outage = .none) (ids : List DefinitionId) :
    (unregisterEach application ids deployment).2.registrar.naming.directory.bindings =
      deployment.registrar.bindingsBut application
        ((ids.map deployment.nameOf).filter (deployment.registrar.isPublished application)) := by
  induction ids generalizing deployment with
  | nil =>
      apply Eq.symm
      apply OrderedMap.without_eq_self
      intro key member
      cases member
  | cons id rest ih =>
      have call := unregister_unregisters deployment application id
      have served : deployment.registrar.naming.outage.unbind (deployment.nameOf id) = false := by
        rw [inService]
        rfl
      have later := ih (call.keyed keyed) (call.outage_eq.trans inService)
      exact later.trans (call.bindingsBut_eq keyed served _)

/-! ## Both batches -/

section Both

variable (deployment) (application : Application DefinitionId)

/-- The deployment after the registration of an application. -/
def registered : Deployment (NameServer Payload) :=
  (deployment.registerAll application).2

/-- The deployment after the registration and the withdrawal of an application. -/
def cleanedUp : Deployment (NameServer Payload) :=
  ((deployment.registered application).unregisterAll application).2

variable {deployment}

theorem map_nameOf_registered :
    application.walk.map (deployment.registered application).nameOf =
      application.walk.map deployment.nameOf :=
  List.map_congr_left fun id _ => nameOf_registerEach application.walk id

/-- The names that the withdrawal finds are those that the application shows. -/
theorem published_registered_iff (sound : deployment.registrar.Sound)
    (inService : deployment.registrar.naming.outage = .none) (name : String) :
    name ∈ (application.walk.map (deployment.registered application).nameOf).filter
        ((deployment.registered application).registrar.isPublished application.name) ↔
      name ∈ deployment.shownNames application := by
  rw [map_nameOf_registered, mem_shownNames_iff, List.mem_filter]
  apply and_congr_right
  intro visited
  rw [registered, registerAll, isPublished_registerEach sound inService _ visited]

theorem remainder_registered :
    (deployment.registered application).registrar.publishedBut application.name
        (deployment.shownNames application) =
      deployment.registrar.publishedBut application.name (deployment.shownNames application) ∧
    (deployment.registered application).registrar.bindingsBut application.name
        (deployment.shownNames application) =
      deployment.registrar.bindingsBut application.name (deployment.shownNames application) := by
  apply remainder_registerEach
  intro id walked shared
  exact (mem_shownNames_iff deployment application _).mpr ⟨List.mem_map_of_mem walked, shared⟩

theorem published_cleanedUp (sound : deployment.registrar.Sound)
    (inService : deployment.registrar.naming.outage = .none) :
    (deployment.cleanedUp application).registrar.published =
      deployment.registrar.publishedBut application.name (deployment.shownNames application) := by
  rw [← (remainder_registered application).1, cleanedUp, unregisterAll,
    published_unregisterEach]
  apply publishedBut_congr
  intro name published
  rw [← published_registered_iff application sound inService, List.mem_filter]
  exact (and_iff_left published).symm

theorem bindings_cleanedUp (sound : deployment.registrar.Sound)
    (inService : deployment.registrar.naming.outage = .none) :
    (deployment.cleanedUp application).registrar.naming.directory.bindings =
      deployment.registrar.bindingsBut application.name (deployment.shownNames application) := by
  have keyed : (deployment.registered application).registrar.Keyed :=
    (sound_registerEach sound application.walk).keyed
  have served : (deployment.registered application).registrar.naming.outage = .none :=
    (outage_registerEach application.walk).trans inService
  rw [← (remainder_registered application).2, cleanedUp, unregisterAll,
    bindings_unregisterEach_of_inService keyed served]
  exact bindingsBut_congr (published_registered_iff application sound inService)

/-- Both batches return the names that the application shows if none of them was
published before. -/
theorem names_of_unpublished (sound : deployment.registrar.Sound)
    (inService : deployment.registrar.naming.outage = .none)
    (unpublished : ∀ name ∈ deployment.shownNames application,
      deployment.registrar.isPublished application.name name = false) :
    (deployment.registerAll application).1 = deployment.shownNames application ∧
      ((deployment.registered application).unregisterAll application).1 =
        deployment.shownNames application := by
  have shown : ∀ name ∈ application.walk.map deployment.nameOf,
      deployment.registrar.settings.isShared name = true →
        deployment.registrar.isPublished application.name name = false := by
    intro name visited shared
    exact unpublished name ((mem_shownNames_iff deployment application name).mpr
      ⟨visited, shared⟩)
  constructor
  · rw [registerAll, registerEach_fst, fresh, shownNames_eq]
    congr 1
    apply List.filter_congr
    intro name visited
    cases shared : deployment.registrar.settings.isShared name with
    | false => simp [accepts, shared]
    | true => simp [accepts, shared, shown name visited shared, inService, Outage.none]
  · have keyed : (deployment.registered application).registrar.Keyed :=
      (sound_registerEach sound application.walk).keyed
    have served : (deployment.registered application).registrar.naming.outage = .none :=
      (outage_registerEach application.walk).trans inService
    rw [unregisterAll, unregisterEach_fst_of_keyed _ keyed, publishedAmong,
      map_nameOf_registered, shownNames_eq]
    congr 1
    apply List.filter_congr
    intro name visited
    have published : (deployment.registered application).registrar.isPublished application.name
        name = deployment.registrar.settings.isShared name :=
      isPublished_registerEach sound inService _ visited
    rw [published]
    cases shared : deployment.registrar.settings.isShared name with
    | false => rfl
    | true =>
        have bound : bindingKey application.name name ∈
            (deployment.registered application).registrar.boundKeys := by
          refine mem_boundKeys_registerEach _ ?_ (published.trans shared)
          intro before
          exact (Bool.false_ne_true ((shown name visited shared).symm.trans before)).elim
        simp [served, bound, Outage.none]

/-- Registering and withdrawing an application in service cleans up after it, whatever
happened before: nothing is left of the names that it shows, and everything else that is
published or bound is as it was, in its order.  If there was nothing of these names, both
batches return them and nothing has changed at all. -/
theorem unregisterAll_cleans_up (reached : Reached settings registrarSettings deployment)
    (inService : deployment.registrar.naming.outage = .none)
    (application : Application DefinitionId) :
    let names := deployment.shownNames application
    let registration := deployment.registerAll application
    let withdrawal := registration.2.unregisterAll application
    withdrawal.2.registrar.published =
        deployment.registrar.published.without (names.map (Prod.mk application.name)) ∧
      withdrawal.2.registrar.naming.directory.bindings =
        deployment.registrar.naming.directory.bindings.without
          (names.map (bindingKey application.name)) ∧
      ((∀ name ∈ names, (application.name, name) ∉ deployment.registrar.published.keys ∧
          bindingKey application.name name ∉ deployment.registrar.boundKeys) →
        registration.1 = names ∧ withdrawal.1 = names ∧
          withdrawal.2.registrar.published = deployment.registrar.published ∧
          withdrawal.2.registrar.naming.directory.bindings =
            deployment.registrar.naming.directory.bindings) := by
  intro names registration withdrawal
  have published := published_cleanedUp application reached.sound inService
  have bindings := bindings_cleanedUp application reached.sound inService
  refine ⟨published, bindings, ?_⟩
  intro unseen
  have unpublished : ∀ name ∈ names,
      deployment.registrar.isPublished application.name name = false := by
    intro name member
    rw [isPublished_eq_false_iff, mem_names_iff]
    exact (unseen name member).1
  obtain ⟨registeredNames, withdrawnNames⟩ :=
    names_of_unpublished application reached.sound inService unpublished
  refine ⟨registeredNames, withdrawnNames, published.trans ?_, bindings.trans ?_⟩
  · apply OrderedMap.without_eq_self
    intro place listed
    obtain ⟨name, member, rfl⟩ := List.mem_map.mp listed
    exact (unseen name member).1
  · apply OrderedMap.without_eq_self
    intro key listed
    obtain ⟨name, member, rfl⟩ := List.mem_map.mp listed
    exact (unseen name member).2

end Both

/-- An application with one bundle. -/
def offering (name : String) (ids : List DefinitionId) : Application DefinitionId where
  name := name
  bundles := [⟨"web", .web, ids, [], [], [], []⟩]

/-- Definitions of different scopes. -/
def scopedMails : Definitions where
  sessions :=
    ["java:global/mail", "java:app/mail", "java:comp/mail"].map fun name =>
      { MailSession.blank with name := name }

/-- A shop and a bank are registered, and the withdrawal of a name of the shop is
refused. -/
def refusedTurns : List Turn :=
  [ ⟨.none, scopedMails, .registerAll (offering "shop" [0, 1, 2])⟩,
    ⟨.none, scopedMails, .registerAll (offering "bank" [0])⟩,
    ⟨⟨fun _ => false, fun _ => true⟩, scopedMails, .unregister "shop" 0⟩ ]

/-- A deployment in which the shop has a binding that is not published, and a published
name whose binding was removed by others. -/
def drifted : Deployment (NameServer Payload) :=
  let served := (start {} none (.start : NameServer Payload)).run refusedTurns
  { served.withNaming
      ⟨⟨served.registrar.naming.directory.bindings.erase (bindingKey "shop" "java:app/mail")⟩,
        .none⟩ with
    definitions := scopedMails }

theorem unregisterAll_cleans_up_drifted :
    drifted.registrar.published.keys =
        [("shop", "java:app/mail"), ("bank", "java:global/mail")] ∧
      drifted.registrar.boundKeys =
        [bindingKey "shop" "java:global/mail", bindingKey "bank" "java:global/mail"] ∧
      (let shop := offering "shop" [0, 1, 2]
      let withdrawal := (drifted.registerAll shop).2.unregisterAll shop
      withdrawal.2.registrar.published.keys = [("bank", "java:global/mail")] ∧
        withdrawal.2.registrar.boundKeys = [bindingKey "bank" "java:global/mail"]) ∧
      (let gallery := offering "gallery" [0, 2, 0]
      let registration := drifted.registerAll gallery
      let withdrawal := registration.2.unregisterAll gallery
      registration.1 = ["java:global/mail"] ∧ withdrawal.1 = registration.1 ∧
        withdrawal.2.registrar.naming.directory.bindings =
          drifted.registrar.naming.directory.bindings) := by
  have reached : Reached {} none drifted :=
    ((Reached.start .start).run refusedTurns).elsewhere _ scopedMails
  obtain ⟨published, bindings, -⟩ :=
    unregisterAll_cleans_up reached rfl (offering "shop" [0, 1, 2])
  obtain ⟨-, -, unseen⟩ := unregisterAll_cleans_up reached rfl (offering "gallery" [0, 2, 0])
  obtain ⟨registeredNames, withdrawnNames, -, unchanged⟩ := unseen (by decide +kernel)
  have names : drifted.shownNames (offering "gallery" [0, 2, 0]) = ["java:global/mail"] := by
    decide +kernel
  refine ⟨by decide +kernel, by decide +kernel, ⟨?_, ?_⟩, registeredNames.trans names,
    withdrawnNames.trans registeredNames.symm, unchanged⟩
  · exact (congrArg OrderedMap.keys published).trans (by decide +kernel)
  · exact (congrArg OrderedMap.keys bindings).trans (by decide +kernel)

end ServerResources.Deployment
