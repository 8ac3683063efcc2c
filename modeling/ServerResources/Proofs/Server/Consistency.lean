import ServerResources.Proofs.Deployment.Installation
import ServerResources.Proofs.OrderedMap
import ServerResources.Proofs.Server.Change

/-!
# The service stays consistent

Three pieces of state are kept in step by the requests: the stored descriptors, the
published names and the bindings.  In a service whose name server never fails, the
names that are published for an application are exactly those that its stored
descriptor shows outside its bundles, and exactly the keys of these names are bound.

`Consistent` is the invariant.  Storing an application keeps it because whatever an
older application of the name had published is withdrawn by the descriptor that
published it.
-/

namespace ServerResources

open Http

namespace Catalog

variable {μ ν : Type} (catalog : Catalog μ) (function : μ → ν)

theorem application?_map (name : String) :
    (catalog.map function).application? name =
      (catalog.application? name).map (Application.map function) :=
  OrderedMap.get?_map _ _ _

/-- Only what the functions do to the members of known applications matters. -/
theorem map_congr {left right : μ → ν}
    (agree : ∀ name application, catalog.application? name = some application →
      ∀ session ∈ application.members, left session = right session) :
    catalog.map left = catalog.map right := by
  have same : catalog.applications.map (Application.map left) =
      catalog.applications.map (Application.map right) := by
    apply OrderedMap.map_congr
    intro name application found
    exact application.map_congr (agree name application found)
  exact congrArg (Catalog.mk catalog.connectors) same

theorem map_storeApplication (application : Application μ) :
    (catalog.storeApplication application).map function =
      (catalog.map function).storeApplication (application.map function) := by
  simp only [map, storeApplication, OrderedMap.map_insert]
  rfl

theorem application?_storeApplication (application : Application μ) (name : String) :
    (catalog.storeApplication application).application? name =
      if name = application.name then some application else catalog.application? name :=
  OrderedMap.get?_insert _ _ _ _

theorem application?_removeApplication (removed name : String) :
    (catalog.removeApplication removed).application? name =
      if name = removed then none else catalog.application? name :=
  OrderedMap.get?_erase _ _ _

theorem map_removeApplication (name : String) :
    (catalog.removeApplication name).map function =
      (catalog.map function).removeApplication name := by
  simp only [map, removeApplication, OrderedMap.map_erase]

end Catalog

namespace Server

/-- The known descriptors with their definitions as they are now. -/
def descriptors (server : Server) : Catalog MailSession :=
  server.catalog.map server.definitions.get

/-- The published names of an application, in order of publication. -/
def namesOf (server : Server) (name : String) : List String :=
  server.deployment.registrar.names (some name)

/-- The keys that are bound. -/
def boundKeys (server : Server) : List BindingKey :=
  server.deployment.registrar.boundKeys

/-- The three pieces of state agree. -/
structure Consistent (settings : Settings) (server : Server) : Prop where
  inService : server.deployment.InService
  settings_eq : server.deployment.registrar.settings = settings
  known : ∀ name application, server.catalog.application? name = some application →
    ∀ id ∈ application.members, id < server.definitions.sessions.length
  named : ∀ name application, server.catalog.application? name = some application →
    application.name = name
  namesOf_eq : ∀ name, server.namesOf name =
    ((server.descriptors.application? name).map
      (Application.sharedNames settings)).getD []

theorem consistent_start (settings : Settings) (introspector : Introspector)
    (exposesBindings : Bool) :
    (start settings introspector exposesBindings).Consistent settings where
  inService := ⟨rfl, Registrar.aligned_start settings .none⟩
  settings_eq := rfl
  known := by
    intro name application found
    cases found
  named := by
    intro name application found
    cases found
  namesOf_eq := by
    intro name
    rfl

namespace Consistent

variable {settings : Settings} {server : Server}

theorem withoutWarnings (consistent : server.Consistent settings) :
    server.withoutWarnings.Consistent settings where
  inService :=
    ⟨consistent.inService.outage,
      ⟨consistent.inService.aligned.keyed, consistent.inService.aligned.boundKeys_eq⟩⟩
  settings_eq := consistent.settings_eq
  known := consistent.known
  named := consistent.named
  namesOf_eq := consistent.namesOf_eq

/-- Connectors play no part. -/
theorem withConnectors (consistent : server.Consistent settings)
    (connectors : OrderedMap String Connector) :
    { server with
      catalog := { server.catalog with connectors := connectors } }.Consistent settings where
  inService := consistent.inService
  settings_eq := consistent.settings_eq
  known := consistent.known
  named := consistent.named
  namesOf_eq := consistent.namesOf_eq

end Consistent

/-! ## Withdrawing -/

/-- A service that differs from another in the published names of one application,
of which it has none. -/
structure Withdrawn (server : Server) (name : String) (after : Server) : Prop where
  catalog_eq : after.catalog = server.catalog
  definitions_eq : after.definitions = server.definitions
  inService : after.deployment.InService
  settings_eq : after.deployment.registrar.settings = server.deployment.registrar.settings
  warnings_eq : after.deployment.registrar.warnings = server.deployment.registrar.warnings
  namesOf_self : after.namesOf name = []
  namesOf_of_ne : ∀ other, other ≠ name → after.namesOf other = server.namesOf other

variable {settings : Settings} {server current : Server}

/-- All published names of an application stand in its stored descriptor, so that
withdrawing by this descriptor leaves none of them. -/
theorem Consistent.withdraw (consistent : server.Consistent settings) (name : String) :
    Withdrawn server name (server.withdraw name).2 := by
  have names := consistent.namesOf_eq name
  rw [descriptors, Catalog.application?_map] at names
  cases found : server.catalog.application? name with
  | none =>
      rw [found] at names
      simp only [Server.withdraw, found]
      exact ⟨rfl, rfl, consistent.inService, rfl, rfl, names, fun other _ => rfl⟩
  | some references =>
      rw [found] at names
      rcases consistent.named name references found with rfl
      obtain ⟨inService, warnings⟩ :=
        consistent.inService.unregisterEach references.name references.walk
      simp only [Server.withdraw, found]
      refine ⟨rfl, Deployment.definitions_unregisterEach _ _ _, inService,
        Deployment.settings_unregisterEach _ _ _, warnings, ?_, ?_⟩
      · have left := Deployment.names_unregisterEach server.deployment references.name
          references.walk
        refine left.trans (List.filter_eq_nil_iff.mpr ?_)
        intro published member
        change server.namesOf references.name =
          (references.map server.definitions.get).sharedNames settings at names
        change published ∈ server.namesOf references.name at member
        rw [names, Application.mem_sharedNames_iff, Application.walk_map] at member
        rcases member with ⟨-, session, visited, rfl⟩
        rcases List.mem_map.mp visited with ⟨id, walked, rfl⟩
        have named : (server.definitions.get id).name ∈
            references.walk.map server.deployment.nameOf :=
          List.mem_map_of_mem walked
        simp [named]
      · intro other different
        exact Deployment.names_unregisterEach_of_ne _ _ _ different

/-- A name server in service refuses no name. -/
theorem Withdrawn.accepts_eq {name : String} (withdrawn : Withdrawn server name current) :
    current.deployment.registrar.accepts = current.deployment.registrar.settings.isShared := by
  funext name
  simp [Registrar.accepts, withdrawn.inService.outage, Outage.none]

theorem Withdrawn.known {removed name : String} (withdrawn : Withdrawn server removed current)
    (consistent : server.Consistent settings) {references : Application DefinitionId}
    (found : current.catalog.application? name = some references) {id : DefinitionId}
    (member : id ∈ references.members) : id < current.definitions.sessions.length := by
  rw [withdrawn.catalog_eq] at found
  rw [withdrawn.definitions_eq]
  exact consistent.known name references found id member

/-! ## Storing an application -/

/-- The service after an application was installed, registered and stored. -/
def entering (server : Server) (application : Application MailSession) : Server :=
  { server with
    catalog := server.catalog.storeApplication (server.deployment.installed application)
    deployment := server.deployment.entering application }

theorem application?_entering (server : Server) (application : Application MailSession)
    (name : String) : (server.entering application).catalog.application? name =
      if name = application.name then some (server.deployment.installed application)
      else server.catalog.application? name :=
  server.catalog.application?_storeApplication _ name

/-- What storing an application comes to. -/
structure Stores (settings : Settings) (server : Server) (application : Application MailSession)
    (response : Response) (after : Server) : Prop where
  consistent : after.Consistent settings
  warnings_eq : after.deployment.registrar.warnings = server.deployment.registrar.warnings
  descriptors_eq : ∃ stored, settings.Adopted application stored ∧
    after.descriptors = server.descriptors.storeApplication stored
  response_eq : response =
    .ok (RegistrationReport.mk application.name (application.sharedNames settings)).dump

section Storing

variable {application : Application MailSession} (consistent : server.Consistent settings)
  (withdrawn : Withdrawn server application.name current)

include consistent withdrawn

theorem Withdrawn.adopted : settings.Adopted application (current.deployment.stored application) := by
  have adopted := Deployment.adopted_entering withdrawn.namesOf_self withdrawn.accepts_eq
  rw [withdrawn.settings_eq, consistent.settings_eq] at adopted
  exact adopted

/-- Storing an application changes the descriptor of its name only. -/
theorem Withdrawn.descriptors_entering : (current.entering application).descriptors =
    server.descriptors.storeApplication (current.deployment.stored application) := by
  have others : current.catalog.map (current.entering application).definitions.get =
      current.catalog.map current.definitions.get := by
    apply Catalog.map_congr
    intro name references found id member
    exact current.deployment.get_entering_of_lt application
      (withdrawn.known consistent found member)
  have stores : (current.entering application).descriptors =
      (current.catalog.map (current.entering application).definitions.get).storeApplication
        (current.deployment.stored application) :=
    Catalog.map_storeApplication _ _ _
  rw [stores, others, withdrawn.catalog_eq, withdrawn.definitions_eq]
  rfl

theorem Withdrawn.consistent_entering : (current.entering application).Consistent settings where
  inService := withdrawn.inService.entering.1
  settings_eq := by
    rw [← consistent.settings_eq, ← withdrawn.settings_eq]
    exact Deployment.settings_registerEach _ _ _
  known := by
    intro name references found id member
    change id < (current.deployment.entering application).definitions.sessions.length
    rw [Deployment.length_entering]
    rw [application?_entering] at found
    split at found
    next =>
      cases found
      exact (current.deployment.definitions.mem_members_install application member).2
    next =>
      have before := withdrawn.known consistent found member
      rw [Deployment.installing, Definitions.sessions_install, List.length_append]
      exact Nat.lt_add_right _ before
  named := by
    intro name references found
    rw [application?_entering] at found
    split at found
    next same =>
      cases found
      exact same.symm
    next =>
      rw [withdrawn.catalog_eq] at found
      exact consistent.named name references found
  namesOf_eq := by
    intro name
    rw [withdrawn.descriptors_entering consistent, Catalog.application?_storeApplication]
    have adopted := withdrawn.adopted consistent
    by_cases same : name = application.name
    · rw [same, if_pos adopted.name_eq.symm, Option.map_some, Option.getD_some,
        adopted.sharedNames_eq]
      have names := Deployment.names_entering withdrawn.namesOf_self withdrawn.accepts_eq
      rw [withdrawn.settings_eq, consistent.settings_eq] at names
      exact names
    · rw [adopted.name_eq, if_neg same, ← consistent.namesOf_eq,
        ← withdrawn.namesOf_of_ne name same]
      exact Deployment.names_entering_of_ne same

end Storing

theorem Consistent.deployApplication (consistent : server.Consistent settings)
    (application : Application MailSession) :
    Stores settings server application (server.deployApplication application).1
      (server.deployApplication application).2 := by
  have withdrawn := consistent.withdraw application.name
  constructor
  · exact withdrawn.consistent_entering consistent
  · exact withdrawn.inService.entering.2.trans withdrawn.warnings_eq
  · exact ⟨_, withdrawn.adopted consistent, withdrawn.descriptors_entering consistent⟩
  · have names := Deployment.fst_entering withdrawn.namesOf_self withdrawn.accepts_eq
    rw [withdrawn.settings_eq, consistent.settings_eq] at names
    rw [← names]
    rfl

/-! ## Removing an application -/

/-- The service without the stored application of a name. -/
def leaving (server : Server) (name : String) : Server :=
  { server with catalog := server.catalog.removeApplication name }

theorem application?_leaving (server : Server) (removed name : String) :
    (server.leaving removed).catalog.application? name =
      if name = removed then none else server.catalog.application? name :=
  server.catalog.application?_removeApplication removed name

/-- What removing a stored application comes to. -/
structure Removes (settings : Settings) (server : Server) (name : String) (after : Server) :
    Prop where
  consistent : after.Consistent settings
  warnings_eq : after.deployment.registrar.warnings = server.deployment.registrar.warnings
  descriptors_eq : after.descriptors = server.descriptors.removeApplication name

theorem Withdrawn.descriptors_leaving {removed : String}
    (withdrawn : Withdrawn server removed current) :
    (current.leaving removed).descriptors = server.descriptors.removeApplication removed := by
  have removes : (current.leaving removed).descriptors =
      (current.catalog.map current.definitions.get).removeApplication removed :=
    Catalog.map_removeApplication _ _ _
  rw [removes, withdrawn.catalog_eq, withdrawn.definitions_eq]
  rfl

theorem Withdrawn.consistent_leaving {removed : String}
    (withdrawn : Withdrawn server removed current) (consistent : server.Consistent settings) :
    (current.leaving removed).Consistent settings where
  inService := withdrawn.inService
  settings_eq := withdrawn.settings_eq.trans consistent.settings_eq
  known := by
    intro name references found id member
    rw [application?_leaving] at found
    split at found
    next => cases found
    next => exact withdrawn.known consistent found member
  named := by
    intro name references found
    rw [application?_leaving] at found
    split at found
    next => cases found
    next =>
      rw [withdrawn.catalog_eq] at found
      exact consistent.named name references found
  namesOf_eq := by
    intro name
    rw [withdrawn.descriptors_leaving, Catalog.application?_removeApplication]
    split
    next same =>
      rw [same]
      exact withdrawn.namesOf_self
    next different =>
      rw [← consistent.namesOf_eq]
      exact withdrawn.namesOf_of_ne name different

theorem Consistent.removeApplication (consistent : server.Consistent settings) {name : String}
    (stored : (server.catalog.application? name).isSome = true) :
    Removes settings server name (server.removeApplication name).2 := by
  have withdrawn := consistent.withdraw name
  rcases Option.isSome_iff_exists.mp stored with ⟨references, found⟩
  have removes : (server.removeApplication name).2 = (server.withdraw name).2.leaving name := by
    simp only [Server.removeApplication, found]
    rfl
  rw [removes]
  constructor
  · exact withdrawn.consistent_leaving consistent
  · exact withdrawn.warnings_eq
  · exact withdrawn.descriptors_leaving

end Server

end ServerResources
