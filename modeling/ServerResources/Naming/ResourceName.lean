import ServerResources.Settings
import ServerResources.Text.Begins

/-!
# Resource names

Under which name the server keeps a mail session.  Names in the scope of a
component or a module are unique only within their owner, so the owner goes in
front of them; every name then goes into the server's own name space.
-/

namespace ServerResources.Settings

/-- Whether a name is unique only within its owner. -/
def isOwned (settings : Settings) (name : String) : Bool :=
  Text.begins settings.componentScope name || Text.begins settings.moduleScope name

/-- Whether a name is visible outside its bundle, and so is published. -/
def isShared (settings : Settings) (name : String) : Bool :=
  Text.begins settings.applicationScope name || Text.begins settings.globalScope name

/-- A name with its owner in front, if it needs one and there is one. -/
def qualified (settings : Settings) (owner : Option String) (name : String) : String :=
  match owner with
  | none => name
  | some owner =>
      if owner ≠ "" ∧ settings.isOwned name then owner ++ "/" ++ name else name

/-- The name under which the server keeps a mail session. -/
def resourceName (settings : Settings) (owner : Option String) (name : String) : String :=
  settings.sessionNamespace ++ settings.qualified owner name

end ServerResources.Settings
