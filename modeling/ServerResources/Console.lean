import ServerResources.Application.Depth
import ServerResources.Catalog
import ServerResources.Console.Command
import ServerResources.Misfits

/-!
# The console

An administrator's view of the library: commands to the naming directory, the
registrar, the deployment of mail sessions and the catalog, over one common
state.  A command answers with a JSON value, or with the failure that it runs
into.

An administrator may overwrite fields of a definition by values that do not fit.
Such values are shown as they are, and a command that needs a value of the right
kind fails.
-/

namespace ServerResources

/-- The state that commands work on. -/
structure Console where
  deployment : Deployment (NameServer Payload)
  catalog : Catalog DefinitionId
  misfits : Misfits

namespace Console

/-- Why a command has no answer. -/
inductive Failure where
  | naming (cause : NamingError)
  | mistake (cause : Mistake)
  | invalid (issues : List Issue)
  deriving DecidableEq, Repr

/-- What a command comes to. -/
abbrev Answer := Except Failure Json

/-- A console over empty state; the registrar has settings of its own if they are
given. -/
def start (settings : Settings) (registrarSettings : Option Settings) : Console where
  deployment := .start settings registrarSettings .start
  catalog := .empty
  misfits := ∅

/-- The definitions. -/
def definitions (console : Console) : Definitions :=
  console.deployment.definitions

/-- The registrar. -/
def registrar (console : Console) : Registrar (NameServer Payload) :=
  console.deployment.registrar

/-- The name server. -/
def nameServer (console : Console) : NameServer Payload :=
  console.registrar.naming

/-- The console with the deployment in another state. -/
def withDeployment (console : Console) (deployment : Deployment (NameServer Payload)) :
    Console :=
  { console with deployment := deployment }

/-- The console with the definitions replaced. -/
def withDefinitions (console : Console) (definitions : Definitions) : Console :=
  console.withDeployment { console.deployment with definitions := definitions }

/-- The console with the name server in another state. -/
def withNameServer (console : Console) (server : NameServer Payload) : Console :=
  console.withDeployment (console.deployment.withNaming server)

/-- The console without warnings. -/
def withoutWarnings (console : Console) : Console :=
  console.withDeployment
    { console.deployment with registrar := { console.registrar with warnings := [] } }

/-! ## Definitions -/

/-- Why nothing can be written to a name that is no field.  Names that begin with an
underscore may be written to without any effect. -/
def checkName (name : String) : Except Mistake Unit :=
  if Text.begins "_" name then .ok ()
  else if MailSession.readOnlyNames.contains name then .error (.readOnly name)
  else .error (.noField name)

/-- Overwrites the field of a name by a value. -/
def overwrite (console : Console) (id : DefinitionId) (field : String) (value : Json) :
    Answer × Console :=
  match MailSession.Field.ofKey? field with
  | some field =>
      let session := (console.definitions.get id).assign field value
      (.ok .null,
        { console.withDefinitions (console.definitions.set id session) with
          misfits := console.misfits.note id field value })
  | none => (((checkName field).map fun _ => .null).mapError .mistake, console)

/-- The name of a definition, which may be a value of any kind. -/
def name (console : Console) (id : DefinitionId) : Json :=
  (console.misfits.get? (id, .name)).getD (.string (console.definitions.get id).name)

/-- The owner of a definition, which may be a value of any kind. -/
def owner (console : Console) (id : DefinitionId) : Json :=
  (console.misfits.get? (id, .owner)).getD (.ofString? (console.definitions.get id).owner)

/-- The name of a definition as a text, if it is one. -/
def textName? (console : Console) (id : DefinitionId) : Option String :=
  match console.name id with
  | .string name => some name
  | _ => none

/-- A definition as it is now. -/
def dumpSession (console : Console) (id : DefinitionId) : Json :=
  console.misfits.overlay id MailSession.Field.ofKey? (console.definitions.get id).dump

/-- Writes a definition that is a document of its own. -/
def showSession (console : Console) (id : DefinitionId) : Except Mistake Json := do
  console.misfits.checkDepth 0 id
  return console.dumpSession id

/-- The names of definitions. -/
def showNames (console : Console) (ids : List DefinitionId) : Json :=
  .array (ids.map console.name)

/-- Checks that an application can be written. -/
def checkApplication (console : Console) (application : Application DefinitionId) :
    Except Mistake Unit :=
  application.located.forM fun place => console.misfits.checkDepth place.1 place.2

/-- Writes an installed application with its definitions as they are now. -/
def showApplication (console : Console) (application : Application DefinitionId) :
    Except Mistake Json := do
  console.checkApplication application
  return application.dumpWith console.dumpSession

/-- Writes the application of a name, or null if there is none. -/
def showStored (console : Console) (name : String) : Except Mistake Json :=
  match console.catalog.application? name with
  | none => .ok .null
  | some application => console.showApplication application

/-- Writes the catalog with all definitions as they are now. -/
def showCatalog (console : Console) : Except Mistake Json := do
  console.catalog.applications.values.forM console.checkApplication
  return console.catalog.dumpWith console.dumpSession

/-! ## Mail resources -/

/-- The mail resource of a definition. -/
def resourceOf (console : Console) (id : DefinitionId) :
    Except Mistake (MailResource DefinitionId) := do
  return ⟨id, ← console.deployment.settings.resourceName? (console.owner id) (console.name id)⟩

/-- The field of a definition that a mail resource shows under a key, if it shows one
as it is. -/
def shownField? (key : String) : Option MailSession.Field :=
  if key = "from" then some .sender else MailSession.Field.ofKey? key

/-- What a mail resource shows; it goes through the properties of its definition. -/
def showResource (console : Console) (resource : MailResource DefinitionId) :
    Except Mistake Json := do
  if let some value := console.misfits.get? (resource.session, .properties) then
    Mistake.checkProperties value
  return console.misfits.overlay resource.session shownField?
    (console.deployment.current resource).dump

/-- What is shown of a binding; null if there is none. -/
def showPayload (console : Console) : Option Payload → Except Mistake Json
  | none | some (.value .null) => .ok .null
  | some (.value json) => .ok (.object [("value", json)])
  | some (.mailResource resource) => do
      return .object [("view", ← console.showResource resource)]

/-! ## Publication -/

/-- Whether a definition is published for an application.  Only texts are. -/
def isPublished (console : Console) (application : String) (id : DefinitionId) :
    Except Mistake Bool := do
  Mistake.checkKey (console.name id)
  return (console.textName? id).any (console.registrar.isPublished application)

/-- Registers a definition.  If registration gives it to the application, any other
owner is gone. -/
def register (console : Console) (application : String) (id : DefinitionId)
    (payload : Payload) : Except Mistake Bool × Console :=
  match Mistake.checkKey (console.name id), console.textName? id with
  | .error mistake, _ => (.error mistake, console)
  | .ok _, none => (.error (.notText (console.name id).kind), console)
  | .ok _, some name =>
      let (published, deployment) := console.deployment.register application id payload
      let misfits :=
        if console.registrar.claims application name then console.misfits.erase (id, .owner)
        else console.misfits
      (.ok published, { console.withDeployment deployment with misfits := misfits })

/-- Withdraws a definition.  While nothing is published, no name is looked up. -/
def unregister (console : Console) (application : String) (id : DefinitionId) :
    Except Mistake Bool × Console :=
  if (console.textName? id).isSome then
    let (withdrawn, deployment) := console.deployment.unregister application id
    (.ok withdrawn, console.withDeployment deployment)
  else if console.registrar.published.entries.isEmpty then (.ok false, console)
  else ((Mistake.checkKey (console.name id)).map fun _ => false, console)

/-- Registers definitions one after another, each with its mail resource, up to one
that cannot be registered, and gives the names that were published. -/
def registerEach (application : String) :
    List DefinitionId → Console → Except Mistake (List String) × Console
  | [], console => (.ok [], console)
  | id :: rest, console =>
      match console.resourceOf id with
      | .error mistake => (.error mistake, console)
      | .ok resource =>
          match console.register application id (.mailResource resource) with
          | (.error mistake, console) => (.error mistake, console)
          | (.ok published, console) =>
              let (names, after) := registerEach application rest console
              (names.map fun names =>
                if published then (console.textName? id).toList ++ names else names, after)

/-- Withdraws definitions one after another, up to one whose name cannot be looked
up, and gives the names that were unbound. -/
def unregisterEach (application : String) :
    List DefinitionId → Console → Except Mistake (List String) × Console
  | [], console => (.ok [], console)
  | id :: rest, console =>
      match console.unregister application id with
      | (.error mistake, console) => (.error mistake, console)
      | (.ok withdrawn, console) =>
          let (names, after) := unregisterEach application rest console
          (names.map fun names =>
            if withdrawn then (console.textName? id).toList ++ names else names, after)

/-- Checks that the owner of a definition can be part of a key. -/
def checkOwner (console : Console) (id : DefinitionId) : Except Failure Unit :=
  match console.misfits.get? (id, .owner) with
  | none => .ok ()
  | some _ => .error (.invalid [⟨[.key "application"], .notString⟩])

/-- Deploys or undeploys a definition under its resource name. -/
def directly (console : Console) (id : DefinitionId)
    (operation : Deployment (NameServer Payload) → DefinitionId →
      Except NamingError Outcome × Deployment (NameServer Payload)) : Answer × Console :=
  match (console.resourceOf id).mapError .mistake, console.checkOwner id with
  | .error failure, _ | .ok _, .error failure => (.error failure, console)
  | .ok _, .ok _ =>
      let (result, deployment) := operation console.deployment id
      ((result.map fun outcome => .string outcome.name).mapError .naming,
        console.withDeployment deployment)

/-! ## Commands -/

/-- The answer of the name server, which says nothing if all went well. -/
def served (console : Console) (result : Except NamingError Unit × NameServer Payload) :
    Answer × Console :=
  ((result.1.map fun _ => .null).mapError .naming, console.withNameServer result.2)

/-- An answer that leaves the console as it is, unless a mistake prevents it. -/
def shown (console : Console) (answer : Except Mistake Json) : Answer × Console :=
  (answer.mapError .mistake, console)

/-- The answer of a change to what is published. -/
def changed {α : Type} (dump : α → Json) (result : Except Mistake α × Console) :
    Answer × Console :=
  ((result.1.map dump).mapError .mistake, result.2)

/-- Carries out a command. -/
def execute (console : Console) : Command → Answer × Console
  | .bind key payload again => console.served (console.nameServer.bind key (.value payload) again)
  | .unbind key => console.served (console.nameServer.unbind key)
  | .isBound key => (.ok (.bool (console.nameServer.directory.isBound key)), console)
  | .lookup key =>
      console.shown (console.showPayload (console.nameServer.directory.lookup key))
  | .disturb outage =>
      (.ok .null, console.withNameServer { console.nameServer with outage := outage })
  | .overwrite id field value => console.overwrite id field value
  | .dumpSession id => console.shown (console.showSession id)
  | .dumpApplication application => console.shown (console.showApplication application)
  | .register application id payload =>
      changed .bool (console.register application id (.value payload))
  | .unregister application id => changed .bool (console.unregister application id)
  | .isPublished application id =>
      console.shown ((console.isPublished application id).map .bool)
  | .publicationState application id =>
      console.shown ((console.isPublished application id).map fun published =>
        .string (if published then "deployed" else "undeployed"))
  | .isShared name => (.ok (.bool (console.registrar.settings.isShared name)), console)
  | .publishedNames application =>
      (.ok (.ofStrings (console.registrar.names application)), console)
  | .registerAll application =>
      changed .ofStrings (registerEach application.name application.walk console)
  | .unregisterAll application =>
      changed .ofStrings (unregisterEach application.name application.walk console)
  | .walk application => (.ok (console.showNames application.walk), console)
  | .walkBundle bundle => (.ok (console.showNames bundle.environment), console)
  | .mailResource id => console.shown (console.resourceOf id >>= console.showResource)
  | .deploy id => console.directly id Deployment.deploy
  | .undeploy id => console.directly id Deployment.undeploy
  | .redeploy candidate => (.ok (.string candidate.redeploy.name), console)
  | .enable candidate => (.ok (.string candidate.enable.name), console)
  | .disable candidate => (.ok (.string candidate.disable.name), console)
  | .isHandled candidate => (.ok (.bool candidate.isHandled), console)
  | .canDeploy candidate afterApplication =>
      (.ok (.bool (candidate.canDeploy afterApplication)), console)
  | .capabilities =>
      (.ok (.array [.bool supportsReconfiguration, .ofStrings reconfigurableClasses, .null]),
        console)
  | .storeConnector connector =>
      (.ok .null, { console with catalog := console.catalog.storeConnector connector })
  | .connector name =>
      (.ok (((console.catalog.connector? name).map Connector.dump).getD .null), console)
  | .removeConnector name =>
      (.ok (.bool (console.catalog.connector? name).isSome),
        { console with catalog := console.catalog.removeConnector name })
  | .connectorNames =>
      (.ok (.ofStrings (console.catalog.connectors.values.map Connector.name)), console)
  | .storeApplication application =>
      (.ok .null, { console with catalog := console.catalog.storeApplication application })
  | .application name => console.shown (console.showStored name)
  | .removeApplication name =>
      ((console.showStored name).mapError .mistake,
        { console with catalog := console.catalog.removeApplication name })
  | .applicationNames =>
      (.ok (.ofStrings (console.catalog.applications.values.map Application.name)), console)
  | .dumpCatalog => console.shown console.showCatalog

end Console

end ServerResources
