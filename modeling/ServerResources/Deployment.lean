import ServerResources.Definitions
import ServerResources.MailResource
import ServerResources.Registrar

/-!
# Deployment of mail sessions

Mail sessions reach the naming directory in two ways.  Those of an application
are registered together: each is published under its own name through the
registrar.  A single one can also be deployed directly, under its resource name.
Either way what is bound is a mail resource, which refers to its definition.

The resource name is derived before the registrar gives the definition to its
application, and a mail resource keeps the name that it was made with.
-/

namespace ServerResources

/-- What is bound in the directory. -/
inductive Payload where
  | value (json : Json)
  | mailResource (resource : MailResource DefinitionId)

/-- What a lifecycle operation came to. -/
inductive Outcome where
  | done
  | unsupported
  deriving DecidableEq, Repr

/-- The name of an outcome. -/
def Outcome.name : Outcome → String
  | .done => "done"
  | .unsupported => "unsupported"

/-- The registrar, the definitions, and the settings for resource names. -/
structure Deployment (σ : Type) where
  settings : Settings
  registrar : Registrar σ
  definitions : Definitions

namespace Deployment

variable {σ : Type}

/-- A deployment whose registrar has settings of its own if they are given. -/
def start (settings : Settings) (registrarSettings : Option Settings) (naming : σ) :
    Deployment σ where
  settings := settings
  registrar := .start (registrarSettings.getD settings) naming
  definitions := .empty

/-- The mail resource of a definition. -/
def resourceOf (deployment : Deployment σ) (id : DefinitionId) : MailResource DefinitionId :=
  let session := deployment.definitions.get id
  ⟨id, deployment.settings.resourceName session.owner session.name⟩

/-- A mail resource with its definition as it is now. -/
def current (deployment : Deployment σ) (resource : MailResource DefinitionId) :
    MailResource MailSession :=
  resource.map deployment.definitions.get

/-- The key that a definition is deployed to directly. -/
def directKey (deployment : Deployment σ) (id : DefinitionId) : BindingKey :=
  { name := (deployment.resourceOf id).name
    application := (deployment.definitions.get id).owner }

variable [NamingService σ Payload]

/-- Registers a definition of an application. -/
def register (deployment : Deployment σ) (application : String) (id : DefinitionId)
    (payload : Payload) : Bool × Deployment σ :=
  let session := deployment.definitions.get id
  let (published, registrar) :=
    deployment.registrar.register application session.name payload
  (published,
    { deployment with
      registrar := registrar
      definitions :=
        deployment.definitions.set id (deployment.registrar.claim application session) })

/-- Withdraws a definition of an application. -/
def unregister (deployment : Deployment σ) (application : String) (id : DefinitionId) :
    Bool × Deployment σ :=
  let (withdrawn, registrar) :=
    deployment.registrar.unregister application (deployment.definitions.get id).name
  (withdrawn, { deployment with registrar := registrar })

/-- Registers some definitions one after another, each with its mail resource, and
gives the names that were published. -/
def registerEach (application : String) :
    List DefinitionId → Deployment σ → List String × Deployment σ
  | [], deployment => ([], deployment)
  | id :: rest, deployment =>
      let name := (deployment.definitions.get id).name
      let (published, deployment) :=
        deployment.register application id (.mailResource (deployment.resourceOf id))
      let (names, deployment) := registerEach application rest deployment
      (if published then name :: names else names, deployment)

/-- Withdraws some definitions one after another, and gives the names that were
unbound. -/
def unregisterEach (application : String) :
    List DefinitionId → Deployment σ → List String × Deployment σ
  | [], deployment => ([], deployment)
  | id :: rest, deployment =>
      let name := (deployment.definitions.get id).name
      let (withdrawn, deployment) := deployment.unregister application id
      let (names, deployment) := unregisterEach application rest deployment
      (if withdrawn then name :: names else names, deployment)

/-- Registers the mail sessions of an application. -/
def registerAll (deployment : Deployment σ) (application : Application DefinitionId) :
    List String × Deployment σ :=
  registerEach application.name application.walk deployment

/-- Withdraws the mail sessions of an application. -/
def unregisterAll (deployment : Deployment σ) (application : Application DefinitionId) :
    List String × Deployment σ :=
  unregisterEach application.name application.walk deployment

/-- The deployment with its naming service in another state. -/
def withNaming (deployment : Deployment σ) (naming : σ) : Deployment σ :=
  { deployment with registrar := { deployment.registrar with naming := naming } }

/-- Deploys a definition under its resource name. -/
def deploy (deployment : Deployment σ) (id : DefinitionId) :
    Except NamingError Outcome × Deployment σ :=
  let (result, naming) :=
    NamingService.bind deployment.registrar.naming (deployment.directKey id)
      (.mailResource (deployment.resourceOf id)) true
  (result.map fun _ => .done, deployment.withNaming naming)

/-- Undeploys a definition from the resource name that it has now. -/
def undeploy (deployment : Deployment σ) (id : DefinitionId) :
    Except NamingError Outcome × Deployment σ :=
  let (result, naming) :=
    NamingService.unbind deployment.registrar.naming (deployment.directKey id)
  (result.map fun _ => .done, deployment.withNaming naming)

end Deployment

/-! ## What the deployment of mail sessions is able to do -/

/-- Something that may be offered for deployment. -/
inductive Candidate where
  | mailSession (id : DefinitionId)
  | other
  deriving DecidableEq, Repr

namespace Candidate

/-- Only mail sessions are handled. -/
def isHandled : Candidate → Bool
  | .mailSession _ => true
  | .other => false

/-- Mail sessions are deployed before their application, never after it. -/
def canDeploy (candidate : Candidate) (afterApplication : Bool) : Bool :=
  candidate.isHandled && !afterApplication

/-- Nothing is redeployed. -/
def redeploy (_candidate : Candidate) : Outcome :=
  .unsupported

/-- Nothing is enabled. -/
def enable (_candidate : Candidate) : Outcome :=
  .unsupported

/-- Nothing is disabled. -/
def disable (_candidate : Candidate) : Outcome :=
  .unsupported

end Candidate

/-- Whether deployed mail sessions follow changes of their configuration. -/
def supportsReconfiguration : Bool := false

/-- The classes of which changes are followed. -/
def reconfigurableClasses : List String := []

end ServerResources
