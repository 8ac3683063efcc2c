import ServerResources.Proofs.Deployment.Warnings
import ServerResources.Proofs.Http.Route
import ServerResources.Proofs.Server.Isolation
import ServerResources.Proofs.Server.Storable

/-!
# Replacing an application

An application that is stored in place of another of its name comes to the same as one
that is stored after the other was removed.  Storing begins with what removing does, which
is to withdraw the old application by its stored descriptor, and after that there is
nothing left to withdraw.  What remains of the difference is the place of the application
among the others: it is kept in one case and is the last in the other.

Nothing is asked of the service that the requests meet.  It may hold anything, and any
names may be out of service.
-/

namespace ServerResources

open Http

/-- A request that removes an application. -/
def Http.Request.removing (name : String) : Request :=
  { method := .delete, path := "/applications/" ++ name }

namespace Catalog

variable {μ : Type} (catalog : Catalog μ) {application : Application μ}

theorem application?_renewed (application : Application μ) (name : String) :
    ((catalog.removeApplication application.name).storeApplication application).application?
        name = (catalog.storeApplication application).application? name := by
  rw [application?_storeApplication, application?_storeApplication,
    application?_removeApplication]
  split
  next => rfl
  next => rfl

/-- A known application keeps its place. -/
theorem keys_replaced (present : catalog.application? application.name ≠ none) :
    (catalog.storeApplication application).applications.keys = catalog.applications.keys := by
  have known : application.name ∈ catalog.applications.keys :=
    Decidable.not_not.mp (mt (OrderedMap.get?_eq_none_iff _ _).mpr present)
  rw [storeApplication, OrderedMap.keys_insert, if_pos known]

/-- A removed application comes back behind the others. -/
theorem keys_renewed (application : Application μ) :
    ((catalog.removeApplication application.name).storeApplication
        application).applications.keys =
      (catalog.applications.keys.filter fun other => decide (other ≠ application.name)) ++
        [application.name] := by
  have unknown : application.name ∉
      catalog.applications.keys.filter fun other => decide (other ≠ application.name) := by
    simp
  rw [storeApplication, removeApplication, OrderedMap.keys_insert, OrderedMap.keys_erase,
    if_neg unknown]

end Catalog

namespace Server

variable {server : Server} {name : String}

/-- The service after the sessions of an application were withdrawn, which is where both
removing it and storing another one of its name begin. -/
def cleared (server : Server) (name : String) : Server :=
  (server.withoutWarnings.withdraw name).2

/-- A removal withdraws the application and forgets it. -/
theorem handle_removing (nonempty : name ≠ "") (slashless : '/' ∉ name.toList)
    (present : server.catalog.application? name ≠ none) :
    server.handle (.removing name) =
      ({ Response.ok (RegistrationReport.mk name (server.withoutWarnings.withdraw name).1).dump with
          warnings := (server.cleared name).deployment.registrar.warnings },
        ((server.cleared name).leaving name).withoutWarnings) := by
  have route : Route.ofPath? (Request.removing name).path = some (.application name) :=
    Route.ofPath?_application nonempty slashless
  have served : server.withoutWarnings.dispatch (.removing name) =
      server.withoutWarnings.removeApplication name := by
    simp only [dispatch, route]
    rfl
  have stored : server.withoutWarnings.catalog.application? name ≠ none := present
  rw [handle_eq, served, removeApplication_of_some stored]
  rfl

/-- A post withdraws the application of the name and stores the new one. -/
theorem handle_of_application? (server : Server) {request : Request}
    {application : Application MailSession}
    (posted : request.application? = some application) :
    server.handle request =
      ({ Response.ok (RegistrationReport.mk application.name
            (((server.cleared application.name).deployment.installing application).registerAll
              ((server.cleared application.name).deployment.installed application)).1).dump with
          warnings :=
            ((server.cleared application.name).entering
              application).deployment.registrar.warnings },
        ((server.cleared application.name).entering application).withoutWarnings) := by
  rw [handle_eq, dispatch_of_application? _ posted, deployApplication_eq]
  rfl

/-- Two services, of which one stored an application in place of the old one of its name,
and the other after it removed the old one. -/
structure Redeployed (name : String) (before replaced renewed : Server) : Prop where
  /-- The same is published, bound and defined, in the same order. -/
  deployment_eq : replaced.deployment = renewed.deployment
  connectors_eq : replaced.catalog.connectors = renewed.catalog.connectors
  application?_eq : ∀ other, replaced.descriptors.application? other =
    renewed.descriptors.application? other
  /-- In one service the application keeps its place. -/
  keys_replaced : replaced.catalog.applications.keys = before.catalog.applications.keys
  /-- In the other it goes to the end. -/
  keys_renewed : renewed.catalog.applications.keys =
    (before.catalog.applications.keys.filter fun other => decide (other ≠ name)) ++ [name]

/-- Behind the same withdrawal, storing in place and storing after removal come to the
same. -/
theorem redeployed_entering {before withdrawn : Server} {application : Application MailSession}
    (catalog : withdrawn.catalog = before.catalog)
    (present : before.catalog.application? application.name ≠ none) :
    Redeployed application.name before (withdrawn.entering application).withoutWarnings
      ((withdrawn.leaving application.name).withoutWarnings.entering
        application).withoutWarnings := by
  have deployments : (withdrawn.entering application).withoutWarnings.deployment =
      ((withdrawn.leaving application.name).withoutWarnings.entering
        application).withoutWarnings.deployment := by
    have step := congrArg Prod.snd (withdrawn.deployment.registerAll_silent application)
    change withdrawn.deployment.entering application =
      (withdrawn.deployment.silent.entering application).precededBy _ at step
    change (withdrawn.deployment.entering application).silent =
      (withdrawn.deployment.silent.entering application).silent
    rw [step]
    rfl
  have inPlace : (withdrawn.entering application).withoutWarnings.catalog =
      before.catalog.storeApplication (withdrawn.deployment.installed application) :=
    congrArg (Catalog.storeApplication · (withdrawn.deployment.installed application)) catalog
  have anew : ((withdrawn.leaving application.name).withoutWarnings.entering
      application).withoutWarnings.catalog =
        (before.catalog.removeApplication application.name).storeApplication
          (withdrawn.deployment.installed application) :=
    congrArg (fun catalog => (Catalog.removeApplication catalog application.name).storeApplication
      (withdrawn.deployment.installed application)) catalog
  refine ⟨deployments, ?connectors, ?applications, ?replaced, ?renewed⟩
  case connectors =>
    rw [inPlace, anew]
    rfl
  case applications =>
    intro other
    rw [descriptors, descriptors, Catalog.application?_map, Catalog.application?_map, definitions,
      definitions, deployments, inPlace, anew]
    exact congrArg _ (before.catalog.application?_renewed _ other).symm
  case replaced =>
    rw [inPlace]
    exact before.catalog.keys_replaced present
  case renewed =>
    rw [anew]
    exact before.catalog.keys_renewed _

/-- Storing an application in place of a stored one of its name comes to the same as
removing that and storing the application then: the answer, what is published and bound,
the definitions and the stored descriptors are the same, and the same warnings are issued.
Only the place among the other applications is another. -/
theorem replacement_is_redeployment {request : Request} {application : Application MailSession}
    (server : Server) (posted : request.application? = some application)
    (stored : (server.descriptors.application? application.name).isSome = true)
    (nonempty : application.name ≠ "") (slashless : '/' ∉ application.name.toList) :
    let replacing := server.handle request
    let removing := server.handle (.removing application.name)
    let renewing := removing.2.handle request
    removing.1.status = 200 ∧
    replacing.1 =
      { renewing.1 with warnings := removing.1.warnings ++ renewing.1.warnings } ∧
    Redeployed application.name server replacing.2 renewing.2 := by
  intro replacing removing renewing
  have present : server.catalog.application? application.name ≠ none := by
    rw [descriptors, Catalog.application?_map, Option.isSome_map] at stored
    exact Option.isSome_iff_ne_none.mp stored
  have catalog : (server.cleared application.name).catalog = server.catalog :=
    catalog_withdraw server.withoutWarnings application.name
  have replaced : replacing = _ := server.handle_of_application? posted
  have removed : removing = _ := handle_removing nonempty slashless present
  generalize server.cleared application.name = withdrawn at *
  -- Nothing is left to withdraw when the application is stored anew.
  have emptied : removing.2.cleared application.name =
      (withdrawn.leaving application.name).withoutWarnings := by
    rw [removed, cleared, withdraw_of_none]
    · rfl
    · exact (withdrawn.application?_leaving application.name application.name).trans (if_pos rfl)
  have renewed : renewing = _ := removing.2.handle_of_application? posted
  rw [emptied] at renewed
  have registered := withdrawn.deployment.registerAll_silent application
  have names := congrArg Prod.fst registered
  have warnings : (withdrawn.entering application).deployment.registrar.warnings =
      withdrawn.deployment.registrar.warnings ++
        ((withdrawn.leaving application.name).withoutWarnings.entering
          application).deployment.registrar.warnings :=
    congrArg (fun served => served.2.registrar.warnings) registered
  refine ⟨?removed, ?answers, ?states⟩
  case removed =>
    rw [removed]
    rfl
  case answers =>
    rw [replaced, removed, renewed, names, warnings]
    rfl
  case states =>
    rw [replaced, renewed]
    exact redeployed_entering catalog present

/-- A service that cannot unbind the name that both of its applications have published. -/
def stalled : Server :=
  ((start {} (.ofTable []) true).disturb (.ofNames [] ["java:global/mail"])).after
    [postingGlobal "shop", postingGlobal "crm"]

/-- An application that declares a new name before that name. -/
def renewedShop : Application MailSession where
  name := "shop"
  bundles := [
    { name := "web"
      kind := .web
      sessions :=
        [ { MailSession.blank with name := "java:global/news" },
          { MailSession.blank with name := "java:global/mail" } ]
      ejbs := []
      interceptors := []
      managedBeans := []
      extensions := [] }]

theorem replacement_is_redeployment_shop :
    let request := Request.posting "/applications" renewedShop.dump
    let replacing := stalled.handle request
    let removing := stalled.handle (.removing "shop")
    let renewing := removing.2.handle request
    replacing.1.body = renewing.1.body ∧
    replacing.2.boundKeys = renewing.2.boundKeys ∧
    replacing.1.warnings =
      [.notWithdrawn "java:global/mail" (.cannotUnbind "java:global/mail")] ∧
    removing.1.warnings = replacing.1.warnings ∧
    replacing.2.catalog.applications.keys = ["shop", "crm"] ∧
    renewing.2.catalog.applications.keys = ["crm", "shop"] := by
  intro request replacing removing renewing
  have fits : renewedShop.Fits := by
    simp [Application.Fits, Bundle.AllFit, Bundle.Fits, renewedShop]
  have posted : request.application? = some renewedShop :=
    Request.application?_posting renewedShop fits
  obtain ⟨-, answers, redeployed⟩ := replacement_is_redeployment stalled posted
    (by decide +kernel) (by decide) (by decide)
  have issued : removing.1.warnings =
      [.notWithdrawn "java:global/mail" (.cannotUnbind "java:global/mail")] := by
    decide +kernel
  have quiet : renewing.1.warnings = [] := by
    decide +kernel
  have bodies := congrArg Response.body answers
  have warnings : replacing.1.warnings = removing.1.warnings ++ renewing.1.warnings :=
    congrArg Response.warnings answers
  rw [quiet, List.append_nil] at warnings
  have keys : stalled.catalog.applications.keys = ["shop", "crm"] := by
    decide +kernel
  refine ⟨bodies, ?_, warnings.trans issued, warnings.symm, ?_, ?_⟩
  · exact congrArg (fun deployment => deployment.registrar.boundKeys) redeployed.deployment_eq
  · exact redeployed.keys_replaced.trans keys
  · have renewed := redeployed.keys_renewed
    rw [keys] at renewed
    exact renewed

end Server
end ServerResources
