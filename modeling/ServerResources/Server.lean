import ServerResources.Catalog
import ServerResources.Deployment
import ServerResources.Http.Delivery
import ServerResources.Http.Route
import ServerResources.Query
import ServerResources.RegistrationReport

/-!
# The service

Connectors and applications are stored, asked about and removed over HTTP.
Storing an application registers its mail sessions; whatever an application of
the same name had registered before is withdrawn first, by the descriptor that
it had then.  Removing an application withdraws its mail sessions.

The answer to a request is a function of the request and the state, and only
requests that store or remove something change the state.  They do so before their
response is written out: `handle` serves a request, and `answer` also delivers the
response, which may fail.
-/

namespace ServerResources

open Http

/-- The state of the service. -/
structure Server where
  introspector : Introspector
  catalog : Catalog DefinitionId
  deployment : Deployment (NameServer Payload)
  /-- Whether the bindings of the name server may be listed. -/
  exposesBindings : Bool

namespace Server

/-- A service that knows no descriptors. -/
def start (settings : Settings) (introspector : Introspector) (exposesBindings : Bool) :
    Server where
  introspector := introspector
  catalog := .empty
  deployment := .start settings none .start
  exposesBindings := exposesBindings

/-- The definitions. -/
def definitions (server : Server) : Definitions :=
  server.deployment.definitions

/-- The service with the outage of its name server replaced. -/
def disturb (server : Server) (outage : Outage) : Server :=
  { server with
    deployment :=
      server.deployment.withNaming { server.deployment.registrar.naming with outage := outage } }

/-- The service without warnings. -/
def withoutWarnings (server : Server) : Server :=
  { server with
    deployment :=
      { server.deployment with
        registrar := { server.deployment.registrar with warnings := [] } } }

/-! ## Connectors -/

/-- Stores a connector. -/
def storeConnector (server : Server) (request : Request) : Response × Server :=
  match request.document Connector.decode with
  | .invalid issues => (.invalid issues, server)
  | .valid connector =>
      (.ok (.object [("status", .string "registered"), ("name", .string connector.name)]),
        { server with catalog := server.catalog.storeConnector connector })

/-- Removes a connector. -/
def removeConnector (server : Server) (name : String) : Response × Server :=
  match server.catalog.connector? name with
  | none => (.notFound "Connector not found", server)
  | some _ =>
      (.ok (.object [("status", .string "removed"), ("name", .string name)]),
        { server with catalog := server.catalog.removeConnector name })

/-- The answer to a question about a connector that is known. -/
def answerAbout (server : Server) (name : String) (answer : Connector → Response) : Response :=
  match server.catalog.connector? name with
  | none => .notFound "Connector not found"
  | some connector => answer connector

/-- The answer that a query has, or the one for its fault. -/
def answerOr {α : Type} (explain : Fault → Response) (dump : α → Json) :
    Except Fault α → Response
  | .ok value => .ok (dump value)
  | .error fault => explain fault

/-- How the faults of a question about properties are explained. -/
def explainProperties (fault : Fault) : Response :=
  match fault with
  | .missing _ => .refuse 400 (.string fault.message)
  | .notFound _ _ => .refuse 404 (.string fault.message)
  | .introspection _ => .refuse 422 (.string fault.message)
  | .relativeModule _ => .failure fault

/-- How the faults of a question about confidential properties are explained. -/
def explainConfidential (fault : Fault) : Response :=
  match fault with
  | .notFound _ _ => .refuse 404 (.string fault.message)
  | _ => .failure fault

/-- Names, or null if there are none to speak of. -/
def dumpNames? : Option (List String) → Json
  | none => .null
  | some names => .ofStrings names

/-- Names that begin with `_sa` are reserved, and are not shown. -/
def isReserved (name : String) : Bool :=
  Text.begins "_sa" name

/-- A bag as an object without its reserved names, or null if there is none. -/
def dumpBag? : Option PropertyBag → Json
  | none => .null
  | some bag => .object ((bag.filterKeys (!isReserved ·)).map Json.string).entries

/-- Answers a question about the administered objects of a connector. -/
def ask (server : Server) (name : String) (question : Question) (request : Request) :
    Response :=
  match question with
  | .interfaces =>
      server.answerAbout name fun connector =>
        answerOr .failure dumpNames? (Query.interfaces (some connector))
  | .classes =>
      match request.parameter "interface" with
      | .invalid issues => .invalid issues
      | .valid interface =>
          server.answerAbout name fun connector =>
            answerOr .failure dumpNames? (Query.classes (some connector) (some interface))
  | .existence =>
      match Prod.mk <$> request.parameter "interface" <*> request.parameter "class_name" with
      | .invalid issues => .invalid issues
      | .valid (interface, implementation) =>
          server.answerAbout name fun connector =>
            answerOr .failure (fun found => .object [("exists", .bool found)])
              (Query.has (some connector) (some interface) (some implementation))
  | .properties =>
      match request.parameter "interface" with
      | .invalid issues => .invalid issues
      | .valid interface =>
          server.answerAbout name fun connector =>
            answerOr explainProperties dumpBag?
              ((Query.beanProperties server.introspector (some connector) (some interface)
                (request.parameter? "class_name") (some name)).run []).1
  | .confidential =>
      match request.parameter "interface" with
      | .invalid issues => .invalid issues
      | .valid interface =>
          let keys := match request.parameter? "class_name" with
            | none => [some interface]
            | some implementation => [some interface, some implementation]
          server.answerAbout name fun connector =>
            answerOr explainConfidential .ofStrings (Query.confidential (some connector) keys)

/-! ## Applications -/

/-- Withdraws the mail sessions of the stored application of a name, if there is
one, and gives the names that were unbound. -/
def withdraw (server : Server) (name : String) : List String × Server :=
  match server.catalog.application? name with
  | none => ([], server)
  | some application =>
      let (names, deployment) := server.deployment.unregisterAll application
      (names, { server with deployment := deployment })

/-- Stores an application in place of the one of its name and registers its mail
sessions. -/
def deployApplication (server : Server) (application : Application MailSession) :
    Response × Server :=
  let server := (server.withdraw application.name).2
  let (installed, definitions) := server.definitions.install application
  let deployment := { server.deployment with definitions := definitions }
  let (names, deployment) := deployment.registerAll installed
  (.ok (RegistrationReport.mk application.name names).dump,
    { server with
      catalog := server.catalog.storeApplication installed
      deployment := deployment })

/-- Stores the application in the body of a request. -/
def storeApplication (server : Server) (request : Request) : Response × Server :=
  match request.document Application.decode with
  | .invalid issues => (.invalid issues, server)
  | .valid application => server.deployApplication application

/-- Removes an application and withdraws its mail sessions. -/
def removeApplication (server : Server) (name : String) : Response × Server :=
  match server.catalog.application? name with
  | none => (.notFound "Application not found", server)
  | some _ =>
      let (names, server) := server.withdraw name
      (.ok (RegistrationReport.mk name names).dump,
        { server with catalog := server.catalog.removeApplication name })

/-- The published names of an application. -/
def mailSessions (server : Server) (name : String) : Response :=
  match server.catalog.application? name with
  | none => .notFound "Application not found"
  | some _ => .ok (.ofStrings (server.deployment.registrar.names (some name)))

/-! ## State -/

/-- The keys that are bound, if they may be listed. -/
def bindings (server : Server) : Response :=
  if server.exposesBindings then
    .ok (.array (server.deployment.registrar.naming.directory.keys.map BindingKey.dump))
  else .notFound "Naming service does not expose its bindings"

/-- All descriptors with their definitions as they are now. -/
def state (server : Server) : Response :=
  .ok (server.catalog.map server.definitions.get).dump

/-! ## Requests -/

/-- The answer to a method that a resource does not have. -/
def methodNotAllowed : Response :=
  .refuse 405 (.string "Method Not Allowed")

/-- Serves a request to a resource. -/
def serve (server : Server) (route : Route) (request : Request) : Response × Server :=
  match route, request.method with
  | .connectors, .post => server.storeConnector request
  | .connectors, .get =>
      (.ok (.ofStrings (server.catalog.connectors.values.map Connector.name)), server)
  | .connector name, .delete => server.removeConnector name
  | .adminObjects name question, .get => (server.ask name question request, server)
  | .applications, .post => server.storeApplication request
  | .application name, .delete => server.removeApplication name
  | .mailSessions name, .get => (server.mailSessions name, server)
  | .bindings, .get => (server.bindings, server)
  | .state, .get => (server.state, server)
  | _, _ => (methodNotAllowed, server)

/-- Serves a request, whatever its path. -/
def dispatch (server : Server) (request : Request) : Response × Server :=
  match Route.ofPath? request.path with
  | some route => server.serve route request
  | none =>
      match movedPath? request.path with
      | some path => (.redirect (address path request.query), server)
      | none => (.notFound "Not Found", server)

/-- Serves a request, up to the writing of its response.  The warnings that it causes
go into the response. -/
def handle (server : Server) (request : Request) : Response × Server :=
  let (response, after) := server.withoutWarnings.dispatch request
  ({ response with warnings := after.deployment.registrar.warnings }, after.withoutWarnings)

/-- Serves a request and delivers its response.  A response that cannot be written takes
nothing back. -/
def answer (server : Server) (request : Request) : Delivery × Server :=
  let (response, after) := server.handle request
  (response.deliver request, after)

end Server

end ServerResources
