import ServerResources.Deployment

/-!
# Commands

What an administrator can ask of the naming directory, the definitions, the
registrar, the deployment of mail sessions and the catalog.
-/

namespace ServerResources

/-- What an administrator can ask for. -/
inductive Command where
  -- The naming directory.
  | bind (key : BindingKey) (payload : Json) (again : Bool)
  | unbind (key : BindingKey)
  | isBound (key : BindingKey)
  | lookup (key : BindingKey)
  | disturb (outage : Outage)
  -- Definitions.
  /-- Overwrites the field of a name by a value of any kind. -/
  | overwrite (id : DefinitionId) (field : String) (value : Json)
  | dumpSession (id : DefinitionId)
  | dumpApplication (application : Application DefinitionId)
  -- The registrar.
  | register (application : String) (id : DefinitionId) (payload : Json)
  | unregister (application : String) (id : DefinitionId)
  | isPublished (application : String) (id : DefinitionId)
  | publicationState (application : String) (id : DefinitionId)
  | isShared (name : String)
  | publishedNames (application : Option String)
  -- The deployment of mail sessions.
  | registerAll (application : Application DefinitionId)
  | unregisterAll (application : Application DefinitionId)
  | walk (application : Application DefinitionId)
  | walkBundle (bundle : Bundle DefinitionId)
  | mailResource (id : DefinitionId)
  | deploy (id : DefinitionId)
  | undeploy (id : DefinitionId)
  | redeploy (candidate : Candidate)
  | enable (candidate : Candidate)
  | disable (candidate : Candidate)
  | isHandled (candidate : Candidate)
  | canDeploy (candidate : Candidate) (afterApplication : Bool)
  | capabilities
  -- The catalog.
  | storeConnector (connector : Connector)
  | connector (name : String)
  | removeConnector (name : String)
  | connectorNames
  | storeApplication (application : Application DefinitionId)
  | application (name : String)
  | removeApplication (name : String)
  | applicationNames
  | dumpCatalog

end ServerResources
