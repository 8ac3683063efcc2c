import ServerResources.Proofs.Server.Redeployment

/-!
# What can be removed

A descriptor is removed by a request to the path that its name stands in.  A name that is
one segment of a path leads there, so that whatever is stored under it can be removed, and
with an application go all of its bindings if the name server never failed.

Storing asks less of a name: it may be empty, and it may have slashes in it.  No path leads
to a descriptor of such a name, and no request ever removes it.
-/

namespace ServerResources

open Http

/-- A request that removes a connector. -/
def Http.Request.removingConnector (name : String) : Request :=
  { method := .delete, path := "/connectors/" ++ name }

namespace Server

variable {server after : Server} {request : Request} {response : Response} {name : String}
  {connector : Connector} {application : Application MailSession}

theorem catalog_deployApplication (server : Server) (application : Application MailSession) :
    (server.deployApplication application).2.catalog =
      { server.catalog with
        applications := server.catalog.applications.insert application.name
          ((server.withdraw application.name).2.deployment.installed application) } := by
  rw [deployApplication_eq, entering, catalog_withdraw]
  rfl

theorem catalog_removeApplication (known : (server.catalog.application? name).isSome = true) :
    (server.removeApplication name).2.catalog = server.catalog.removeApplication name := by
  rw [removeApplication_of_some (Option.isSome_iff_ne_none.mp known), leaving, catalog_withdraw]

/-! ## Names in paths -/

/-- A connector whose name is a segment is removed, and nothing else is. -/
theorem handle_removingConnector (segment : IsSegment name)
    (known : (server.catalog.connector? name).isSome = true) :
    (server.handle (.removingConnector name)).1.status = 200 ∧
      (server.handle (.removingConnector name)).2 =
        { server with catalog := server.catalog.removeConnector name }.withoutWarnings := by
  have route : Route.ofPath? (Request.removingConnector name).path = some (.connector name) :=
    Route.ofPath?_connector segment.1 segment.2
  rcases Option.isSome_iff_exists.mp known with ⟨connector, found⟩
  have stored : server.withoutWarnings.catalog.connector? name = some connector := found
  have served : server.withoutWarnings.dispatch (.removingConnector name) =
      server.withoutWarnings.removeConnector name := by
    simp only [dispatch, route]
    rfl
  rw [handle_eq, served, removeConnector, stored]
  exact ⟨rfl, rfl⟩

theorem catalog_of_connector? (server : Server) (posted : request.connector? = some connector) :
    (server.handle request).2.catalog = server.catalog.storeConnector connector := by
  rw [handle_eq, dispatch_of_connector? _ posted]
  rfl

theorem known_connector (server : Server) (posted : request.connector? = some connector) :
    ((server.handle request).2.catalog.connector? connector.name).isSome = true := by
  rw [catalog_of_connector? server posted, Catalog.connector?, Catalog.storeConnector,
    OrderedMap.get?_insert_self]
  rfl

/-- What was stored last under the name of a connector is removed, with nothing else. -/
theorem removes_connector (server : Server) (segment : IsSegment connector.name)
    (posted : request.connector? = some connector) :
    ((server.handle request).2.handle (.removingConnector connector.name)).1.status = 200 ∧
      ((server.handle request).2.handle (.removingConnector connector.name)).2.catalog =
        server.catalog.removeConnector connector.name := by
  obtain ⟨status, removed⟩ := handle_removingConnector segment (server.known_connector posted)
  refine ⟨status, ?_⟩
  rw [removed]
  change (server.handle request).2.catalog.removeConnector connector.name = _
  rw [catalog_of_connector? server posted, Catalog.removeConnector, Catalog.storeConnector,
    OrderedMap.erase_insert_self]
  rfl

theorem catalog_of_application? (server : Server)
    (posted : request.application? = some application) :
    (server.handle request).2.catalog =
      { server.catalog with
        applications := server.catalog.applications.insert application.name
          ((server.cleared application.name).deployment.installed application) } := by
  rw [handle_eq, dispatch_of_application? _ posted]
  exact server.withoutWarnings.catalog_deployApplication application

theorem known_application (server : Server) (posted : request.application? = some application) :
    ((server.handle request).2.catalog.application? application.name).isSome = true := by
  rw [catalog_of_application? server posted, Catalog.application?, OrderedMap.get?_insert_self]
  rfl

/-- What was stored last under the name of an application is removed, with nothing else. -/
theorem removes_application (server : Server) (segment : IsSegment application.name)
    (posted : request.application? = some application) :
    ((server.handle request).2.handle (.removing application.name)).1.status = 200 ∧
      ((server.handle request).2.handle (.removing application.name)).2.catalog =
        server.catalog.removeApplication application.name := by
  have known := Option.isSome_iff_ne_none.mp (server.known_application posted)
  have withdrawn : ((server.handle request).2.cleared application.name).catalog =
      (server.handle request).2.catalog :=
    catalog_withdraw _ application.name
  rw [handle_removing segment.1 segment.2 known]
  refine ⟨rfl, ?_⟩
  change ((server.handle request).2.cleared application.name).catalog.removeApplication
    application.name = _
  rw [withdrawn, catalog_of_application? server posted, Catalog.removeApplication,
    OrderedMap.erase_insert_self]
  rfl

/-- Nothing is bound for an application that is not stored. -/
theorem Consistent.not_bound {settings : Settings} (consistent : server.Consistent settings)
    (absent : server.catalog.application? name = none) {key : BindingKey}
    (bound : key ∈ server.boundKeys) : key.application ≠ some name := by
  have names := consistent.namesOf_eq name
  rw [descriptors, Catalog.application?_map, absent] at names
  rw [boundKeys, consistent.inService.aligned.boundKeys_eq] at bound
  rcases List.mem_map.mp bound with ⟨⟨owner, published⟩, member, rfl⟩
  intro same
  cases same
  rw [← Registrar.mem_names_iff] at member
  change published ∈ server.namesOf owner at member
  rw [names] at member
  cases member

/-! ## Names in no path -/

/-- A connector that no path leads to is not removed. -/
theorem Change.keeps_connector (change : Change server request response after)
    (unnamed : ¬ IsSegment name) (known : (server.catalog.connector? name).isSome = true) :
    (after.catalog.connector? name).isSome = true := by
  cases change with
  | nothing => exact known
  | connectorStored connector => exact OrderedMap.isSome_get?_insert _ _ known
  | connectorRemoved removed _ _ _ named =>
      apply OrderedMap.isSome_get?_erase
      case different =>
        rintro rfl
        exact unnamed (Route.isSegment_of_ofPath? named rfl)
      case present => exact known
  | applicationStored application =>
      rw [catalog_deployApplication]
      exact known
  | applicationRemoved removed present =>
      rw [catalog_removeApplication present]
      exact known

/-- An application that no path leads to is not removed. -/
theorem Change.keeps_application (change : Change server request response after)
    (unnamed : ¬ IsSegment name) (known : (server.catalog.application? name).isSome = true) :
    (after.catalog.application? name).isSome = true := by
  cases change with
  | nothing => exact known
  | connectorStored => exact known
  | connectorRemoved => exact known
  | applicationStored application =>
      rw [catalog_deployApplication]
      exact OrderedMap.isSome_get?_insert _ _ known
  | applicationRemoved removed present _ _ named =>
      rw [catalog_removeApplication present]
      apply OrderedMap.isSome_get?_erase
      case different =>
        rintro rfl
        exact unnamed (Route.isSegment_of_ofPath? named rfl)
      case present => exact known

/-- What no change takes away, no run does. -/
theorem after_keeps (kept : Catalog DefinitionId → Prop)
    (step : ∀ server request response after, Change server request response after →
      kept server.catalog → kept after.catalog)
    (server : Server) (requests : List Request) (holds : kept server.catalog) :
    kept (server.after requests).catalog := by
  induction requests generalizing server with
  | nil => exact holds
  | cons request rest ih =>
      have handled : kept (server.withoutWarnings.dispatch request).2.catalog :=
        step server.withoutWarnings _ _ _ (server.withoutWarnings.change_dispatch request) holds
      exact ih (server.handle request).2 handled

/-- A service that began without descriptors, over a name server that never failed. -/
def NeverFailed (server : Server) : Prop :=
  ∃ settings introspector exposesBindings requests,
    server = (start settings introspector exposesBindings).after requests

theorem NeverFailed.not_bound {later : Request} (neverFailed : server.NeverFailed)
    (removed : ((server.handle request).2.handle later).2.catalog =
      server.catalog.removeApplication name) :
    ∀ key ∈ ((server.handle request).2.handle later).2.boundKeys,
      key.application ≠ some name := by
  rcases neverFailed with ⟨settings, introspector, exposesBindings, requests, rfl⟩
  have consistent := ((consistent_start settings introspector exposesBindings).after requests)
  intro key bound
  apply ((consistent.handle request).consistent.handle later).consistent.not_bound
  · rw [removed]
    exact OrderedMap.get?_erase_self _ _
  · exact bound

/-- In every state, what is stored under a name that is a segment can be removed by the path
that the name stands in, and then it is gone, nothing else is, and nothing is bound for it
if the name server never failed.  What is stored under any other name stays, whatever is
requested. -/
theorem removable_iff_segment (server : Server) (request : Request) :
    (∀ connector, request.connector? = some connector →
      let storing := server.handle request
      let removing := storing.2.handle (.removingConnector connector.name)
      storing.1.status = 200 ∧
      (IsSegment connector.name → removing.1.status = 200 ∧
        removing.2.catalog = server.catalog.removeConnector connector.name) ∧
      (¬ IsSegment connector.name → ∀ later,
        ((storing.2.after later).catalog.connector? connector.name).isSome = true)) ∧
    ∀ application, request.application? = some application →
      let storing := server.handle request
      let removing := storing.2.handle (.removing application.name)
      storing.1.status = 200 ∧
      (IsSegment application.name → removing.1.status = 200 ∧
        removing.2.catalog = server.catalog.removeApplication application.name ∧
        (server.NeverFailed → ∀ key ∈ removing.2.boundKeys,
          key.application ≠ some application.name)) ∧
      (¬ IsSegment application.name → ∀ later,
        ((storing.2.after later).catalog.application? application.name).isSome = true) := by
  constructor
  · intro connector posted storing removing
    refine ⟨?status, ?removed, ?kept⟩
    case status =>
      simp only [storing, handle_eq, dispatch_of_connector? _ posted]
      rfl
    case removed =>
      intro segment
      exact server.removes_connector segment posted
    case kept =>
      intro unnamed later
      apply after_keeps fun catalog => (catalog.connector? connector.name).isSome = true
      case step =>
        intro before request response after change
        exact change.keeps_connector unnamed
      case holds => exact server.known_connector posted
  · intro application posted storing removing
    refine ⟨?status, ?removed, ?kept⟩
    case status =>
      simp only [storing, handle_eq, dispatch_of_application? _ posted]
      rfl
    case removed =>
      intro segment
      obtain ⟨status, removed⟩ := server.removes_application segment posted
      refine ⟨status, removed, ?_⟩
      intro neverFailed
      exact neverFailed.not_bound removed
    case kept =>
      intro unnamed later
      apply after_keeps fun catalog => (catalog.application? application.name).isSome = true
      case step =>
        intro before request response after change
        exact change.keeps_application unnamed
      case holds => exact server.known_application posted

/-- An application that shows a session outside its bundle. -/
def publishing (name : String) : Application MailSession where
  name := name
  bundles := [
    { name := "web"
      kind := .web
      sessions := [{ MailSession.blank with name := "java:global/mail" }]
      ejbs := []
      interceptors := []
      managedBeans := []
      extensions := [] }]

/-- A service that never failed. -/
def served : Server :=
  (start {} (.ofTable []) true).after [.posting "/applications" (publishing "crm").dump]

theorem removable_iff_segment_shop :
    let storing := served.handle (.posting "/applications" (publishing "shop").dump)
    let removing := storing.2.handle (.removing "shop")
    storing.2.boundKeys =
      [ { name := "java:global/mail", application := some "crm" },
        { name := "java:global/mail", application := some "shop" } ] ∧
    removing.1.status = 200 ∧
    removing.2.catalog.applications.keys = ["crm"] ∧
    ∀ key ∈ removing.2.boundKeys, key.application ≠ some "shop" := by
  intro storing removing
  have posted : (Request.posting "/applications" (publishing "shop").dump).application? =
      some (publishing "shop") := by
    apply Request.application?_posting
    simp [Application.Fits, Bundle.AllFit, Bundle.Fits, publishing]
  have segment : IsSegment "shop" := by
    decide
  have bound : storing.2.boundKeys =
      [ { name := "java:global/mail", application := some "crm" },
        { name := "java:global/mail", application := some "shop" } ] := by
    decide +kernel
  have neverFailed : served.NeverFailed := ⟨{}, .ofTable [], true, _, rfl⟩
  obtain ⟨-, removed, -⟩ := (removable_iff_segment served
    (.posting "/applications" (publishing "shop").dump)).2 (publishing "shop") posted
  obtain ⟨status, catalog, unbound⟩ := removed segment
  refine ⟨bound, status, ?_, unbound neverFailed⟩
  have keys : (served.catalog.removeApplication "shop").applications.keys = ["crm"] := by
    decide +kernel
  exact (congrArg (fun catalog => catalog.applications.keys) catalog).trans keys

/-- An application with a slash in its name is stored, but cannot be removed, nor can a
connector without a name. -/
theorem slashed_application_stays :
    let storing := served.handle (.posting "/applications" (publishing "shop/web").dump)
    let removing := storing.2.handle (.removing "shop/web")
    storing.1.status = 200 ∧
    removing.1.status = 404 ∧
    removing.2.catalog.applications.keys = ["crm", "shop/web"] ∧
    removing.2.boundKeys =
      [ { name := "java:global/mail", application := some "crm" },
        { name := "java:global/mail", application := some "shop/web" } ] ∧
    ((served.handle (.posting "/connectors" (Connector.dump ⟨"", []⟩))).2.handle
      (.removingConnector "")).1.status = 307 := by
  decide +kernel

end Server

end ServerResources
