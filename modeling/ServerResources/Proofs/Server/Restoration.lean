import ServerResources.Proofs.Server.Reachable
import ServerResources.Proofs.Server.Storable

/-!
# Restoring a service from its state

The state that a service shows can be posted to a fresh service, entry by entry.
Every entry is granted, and in the end the fresh service has the same descriptors as
the first one.  In consistent services the descriptors decide which names are
published, in which order, and which keys are bound.
-/

namespace ServerResources

open Http

namespace Server

variable {settings : Settings} {server : Server}

/-- Some requests are all granted and leave the service with the given descriptors. -/
structure Replays (settings : Settings) (server : Server) (requests : List Request)
    (descriptors : Catalog MailSession) : Prop where
  granted : ∀ response ∈ server.responses requests, response.status = 200
  consistent : (server.after requests).Consistent settings
  descriptors_eq : (server.after requests).descriptors = descriptors

theorem Replays.append {first second : List Request} {middle last : Catalog MailSession}
    (begins : Replays settings server first middle)
    (ends : Replays settings (server.after first) second last) :
    Replays settings server (first ++ second) last where
  granted := by
    rw [responses_append]
    intro response member
    rcases List.mem_append.mp member with early | late
    · exact begins.granted response early
    · exact ends.granted response late
  consistent := by
    rw [after_append]
    exact ends.consistent
  descriptors_eq := by
    rw [after_append]
    exact ends.descriptors_eq

theorem Consistent.replays_nil (consistent : server.Consistent settings) :
    Replays settings server [] server.descriptors where
  granted := by
    intro response member
    cases member
  consistent := consistent
  descriptors_eq := rfl

theorem Consistent.replays_connector (consistent : server.Consistent settings)
    (connector : Connector) :
    Replays settings server [.posting "/connectors" connector.dump]
      (server.descriptors.storeConnector connector) := by
  have answer := server.withoutWarnings.dispatch_of_connector?
    (Request.connector?_posting connector)
  have serves := consistent.handle (.posting "/connectors" connector.dump)
  refine ⟨?_, serves.consistent, ?_⟩
  · intro response member
    rw [responses, responses, List.mem_singleton] at member
    rw [member, Server.handle, answer]
    rfl
  · rw [Server.after, List.foldl_cons, List.foldl_nil, Server.handle, answer]
    rfl

/-- A settled application is stored as it is. -/
theorem Consistent.replays_application (consistent : server.Consistent settings)
    (application : Application MailSession) (fits : application.Fits)
    (settled : settings.Settled application) :
    Replays settings server [.posting "/applications" application.dump]
      (server.descriptors.storeApplication application) := by
  have answer := server.withoutWarnings.dispatch_of_application?
    (Request.application?_posting application fits)
  have serves := consistent.handle (.posting "/applications" application.dump)
  have stores := consistent.withoutWarnings.deployApplication application
  rcases stores.descriptors_eq with ⟨stored, adopted, descriptors⟩
  rw [adopted.eq_of_settled settled] at descriptors
  refine ⟨?_, serves.consistent, ?_⟩
  · intro response member
    rw [responses, responses, List.mem_singleton] at member
    rw [member, Server.handle, answer]
    exact congrArg Response.status stores.response_eq
  · rw [Server.after, List.foldl_cons, List.foldl_nil, Server.handle, answer]
    exact descriptors

theorem Consistent.replays_connectors (consistent : server.Consistent settings)
    (connectors : List Connector) :
    Replays settings server
      (connectors.map fun connector => .posting "/connectors" connector.dump)
      { server.descriptors with
        connectors := server.descriptors.connectors.insertAll
          (connectors.map fun connector => (connector.name, connector)) } := by
  induction connectors generalizing server with
  | nil => exact consistent.replays_nil
  | cons connector rest ih =>
      have first := consistent.replays_connector connector
      have others := ih first.consistent
      rw [first.descriptors_eq] at others
      exact first.append others

theorem Consistent.replays_applications (consistent : server.Consistent settings)
    (applications : List (Application MailSession))
    (storable : ∀ application ∈ applications,
      application.Fits ∧ settings.Settled application) :
    Replays settings server
      (applications.map fun application => .posting "/applications" application.dump)
      { server.descriptors with
        applications := server.descriptors.applications.insertAll
          (applications.map fun application => (application.name, application)) } := by
  induction applications generalizing server with
  | nil => exact consistent.replays_nil
  | cons application rest ih =>
      rcases storable application List.mem_cons_self with ⟨fits, settled⟩
      have first := consistent.replays_application application fits settled
      have others := ih first.consistent fun other member =>
        storable other (List.mem_cons_of_mem application member)
      rw [first.descriptors_eq] at others
      exact first.append others

/-- The requests that post the given descriptors, connectors first. -/
def storing (catalog : Catalog MailSession) : List Request :=
  (catalog.connectors.values.map fun connector => .posting "/connectors" connector.dump) ++
    catalog.applications.values.map fun application =>
      .posting "/applications" application.dump

/-- Posting storable descriptors to a service without any stores just these. -/
theorem Consistent.replays_storing (consistent : server.Consistent settings)
    (empty : server.descriptors = .empty) {catalog : Catalog MailSession}
    (storable : catalog.Storable settings) :
    Replays settings server (storing catalog) catalog := by
  have connectors := consistent.replays_connectors catalog.connectors.values
  have applications := connectors.consistent.replays_applications catalog.applications.values (by
    intro application member
    rcases List.mem_map.mp member with ⟨⟨name, _⟩, entry, rfl⟩
    have found := (catalog.applications.get?_eq_some_iff _ _).mpr entry
    exact ⟨storable.fits name _ found, storable.settled name _ found⟩)
  have replays := connectors.append applications
  have connectorEntries :=
    catalog.connectors.entries_eq_of_values Connector.name storable.connectorsNamed
  have applicationEntries :=
    catalog.applications.entries_eq_of_values Application.name storable.applicationsNamed
  rw [connectors.descriptors_eq, empty, connectorEntries, applicationEntries] at replays
  have connectorsRestored : (Catalog.empty : Catalog MailSession).connectors.insertAll
      catalog.connectors.entries = catalog.connectors := catalog.connectors.ofList_entries
  have applicationsRestored : (Catalog.empty : Catalog MailSession).applications.insertAll
      catalog.applications.entries = catalog.applications := catalog.applications.ofList_entries
  rw [connectorsRestored, applicationsRestored] at replays
  exact replays

/-! ## Services with the same descriptors -/

section Same

variable {other : Server} (consistent : server.Consistent settings)
  (otherConsistent : other.Consistent settings)
  (same : server.descriptors = other.descriptors)

include consistent otherConsistent same

theorem Consistent.namesOf_congr (name : String) : server.namesOf name = other.namesOf name := by
  rw [consistent.namesOf_eq, otherConsistent.namesOf_eq, same]

theorem Consistent.mem_boundKeys_congr (key : BindingKey) :
    key ∈ server.boundKeys ↔ key ∈ other.boundKeys := by
  have published : ∀ place : String × String,
      place ∈ server.deployment.registrar.published.keys ↔
        place ∈ other.deployment.registrar.published.keys := by
    rintro ⟨application, name⟩
    rw [← Registrar.mem_names_iff, ← Registrar.mem_names_iff]
    have names := consistent.namesOf_congr otherConsistent same application
    rw [namesOf, namesOf] at names
    rw [names]
  rw [boundKeys, boundKeys, consistent.inService.aligned.boundKeys_eq,
    otherConsistent.inService.aligned.boundKeys_eq, List.mem_map, List.mem_map]
  simp only [published]

end Same

/-! ## Restoring -/

/-- The entries of a field of a document. -/
def entriesOf (field : String) (document : Json) : List Json :=
  match document.field? field with
  | some (.array items) => items
  | _ => []

/-- The requests that post the entries of a state, connectors first. -/
def restoring (snapshot : Json) : List Request :=
  (entriesOf "connectors" snapshot).map (.posting "/connectors") ++
    (entriesOf "applications" snapshot).map (.posting "/applications")

theorem restoring_dump (catalog : Catalog MailSession) :
    restoring catalog.dump = storing catalog := by
  simp [restoring, storing, entriesOf, Catalog.dump, Catalog.dumpWith, Json.field?,
    OrderedMap.find, Application.dump, Function.comp_def]

/-- A request for the state. -/
def askingState : Request :=
  { method := .get, path := "/state" }

theorem handle_askingState (server : Server) :
    (server.handle askingState).1 = .ok server.descriptors.dump :=
  rfl

/-- A fresh service to which the state of another one was posted shows that state,
binds the same keys and publishes the same names in the same order. -/
theorem restored_from_state (settings : Settings) (introspector : Introspector)
    (exposesBindings : Bool) (requests : List Request) :
    let fresh := start settings introspector exposesBindings
    let original := fresh.after requests
    let replay := restoring (original.handle askingState).1.body
    let restored := fresh.after replay
    (∀ response ∈ fresh.responses replay, response.status = 200) ∧
    (restored.handle askingState).1 = (original.handle askingState).1 ∧
    (∀ key, key ∈ restored.boundKeys ↔ key ∈ original.boundKeys) ∧
    ∀ application, (original.descriptors.application? application).isSome = true →
      restored.namesOf application = original.namesOf application := by
  intro fresh original replay restored
  have beginning := consistent_start settings introspector exposesBindings
  have consistent : original.Consistent settings := beginning.after requests
  have storable : original.descriptors.Storable settings :=
    beginning.descriptors_after (fun _ _ _ _ effect => .effect effect) requests
      (Catalog.storable_empty settings)
  have replays : Replays settings fresh replay original.descriptors := by
    have stores := beginning.replays_storing rfl storable
    rw [← restoring_dump] at stores
    exact stores
  refine ⟨replays.granted, ?_, ?_, ?_⟩
  · rw [handle_askingState, handle_askingState]
    exact congrArg (fun catalog => Response.ok (Catalog.dump catalog)) replays.descriptors_eq
  · exact replays.consistent.mem_boundKeys_congr consistent replays.descriptors_eq
  · intro application _
    exact replays.consistent.namesOf_congr consistent replays.descriptors_eq application

theorem restored_from_state_redeployment :
    let fresh := start {} (.ofTable []) true
    let replay := restoring ((fresh.after redeployment).handle askingState).1.body
    replay.length = 1 ∧
    (∀ response ∈ fresh.responses replay, response.status = 200) ∧
    ∀ key, key ∈ (fresh.after replay).boundKeys ↔
      key = Registrar.bindingKey "shop" "java:global/mail" ∨
      key = Registrar.bindingKey "shop" "java:global/news" := by
  intro fresh replay
  have length : replay.length = 1 := by
    decide +kernel
  have bound : (fresh.after redeployment).boundKeys =
      [ Registrar.bindingKey "shop" "java:global/mail",
        Registrar.bindingKey "shop" "java:global/news" ] := by
    decide +kernel
  rcases restored_from_state {} (.ofTable []) true redeployment with ⟨granted, -, keys, -⟩
  refine ⟨length, granted, ?_⟩
  intro key
  have same := keys key
  rw [bound] at same
  simpa using same

end Server

end ServerResources
