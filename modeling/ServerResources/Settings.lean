import ServerResources.Resource

/-!
# Settings

How names in the naming directory are understood: which prefix stands for which
scope, and under which name the server keeps its own entries.
-/

namespace ServerResources

/-- The scopes of names and the server's own name space. -/
structure Settings where
  applicationScope : String := "java:app/"
  globalScope : String := "java:global/"
  moduleScope : String := "java:module/"
  componentScope : String := "java:comp/"
  /-- What the server puts before the names of its mail resources. -/
  sessionNamespace : String := "__mailsession_definition/"
  sessionInterface : String := mailSessionInterface
  deriving DecidableEq, Repr, Inhabited

namespace Settings

/-- Reads settings; what is absent has its usual value. -/
def decode (origin : Origin) : Decoder Settings :=
  Decoder.object origin "ConnectorRuntimeConfig" fun fields =>
    let usual : Settings := {}
    Settings.mk
      <$> Decoder.optional fields "app_scope_prefix" usual.applicationScope Decoder.string
      <*> Decoder.optional fields "global_scope_prefix" usual.globalScope Decoder.string
      <*> Decoder.optional fields "module_scope_prefix" usual.moduleScope Decoder.string
      <*> Decoder.optional fields "comp_scope_prefix" usual.componentScope Decoder.string
      <*> Decoder.optional fields "mail_session_namespace" usual.sessionNamespace Decoder.string
      <*> Decoder.optional fields "mail_session_interface" usual.sessionInterface Decoder.string

/-- Writes all settings. -/
def dump (settings : Settings) : Json :=
  .object
    [ ("app_scope_prefix", .string settings.applicationScope),
      ("global_scope_prefix", .string settings.globalScope),
      ("module_scope_prefix", .string settings.moduleScope),
      ("comp_scope_prefix", .string settings.componentScope),
      ("mail_session_namespace", .string settings.sessionNamespace),
      ("mail_session_interface", .string settings.sessionInterface) ]

end Settings

end ServerResources
