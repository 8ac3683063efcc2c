import ServerResources.Naming.ResourceName
import ServerResources.Naming.NameServer

/-!
# The registrar

The registrar publishes each name of an application at most once.  A name that
it has published stays so until it is withdrawn; publishing it again and
withdrawing it twice do nothing.

A refusal of the naming service is not passed on, so that one name cannot hold
up the others; it leaves a warning.  A name whose publication is refused stays
unpublished and may be tried again.  A name whose withdrawal is refused counts
as withdrawn all the same.
-/

namespace ServerResources

/-- A refusal of the naming service that was not passed on. -/
inductive Warning where
  | notPublished (name application : String) (cause : NamingError)
  | notWithdrawn (name : String) (cause : NamingError)
  deriving DecidableEq, Repr

/-- The wording of a warning. -/
def Warning.message : Warning → String
  | .notPublished name application cause =>
      "exception while registering mail-session [" ++ name ++ "] of application ["
        ++ application ++ "]: " ++ cause.message
  | .notWithdrawn name cause =>
      "exception while unregistering mail-session [" ++ name ++ "]: " ++ cause.message

/-- What is published, over a naming service with states `σ`. -/
structure Registrar (σ : Type) where
  settings : Settings
  naming : σ
  /-- The published names by application, with the keys that they are bound to. -/
  published : OrderedMap (String × String) BindingKey
  warnings : List Warning

namespace Registrar

variable {σ π : Type}

/-- A registrar that has published nothing. -/
def start (settings : Settings) (naming : σ) : Registrar σ :=
  ⟨settings, naming, ∅, []⟩

/-- Whether a name of an application is published. -/
def isPublished (registrar : Registrar σ) (application name : String) : Bool :=
  registrar.published.contains (application, name)

/-- The published names, of one application if one is given. -/
def names (registrar : Registrar σ) (application : Option String) : List String :=
  (registrar.published.keys.filter fun key =>
    application = none || application = some key.1).map Prod.snd

/-- The key that a name of an application is bound to. -/
def bindingKey (application name : String) : BindingKey :=
  { name := name, application := some application }

/-- Whether registration gives a definition of a name to its application: in the
application scope it does, unless the name is published already. -/
def claims (registrar : Registrar σ) (application name : String) : Bool :=
  !registrar.isPublished application name &&
    Text.begins registrar.settings.applicationScope name

/-- The definition as registration leaves it. -/
def claim (registrar : Registrar σ) (application : String) (session : MailSession) :
    MailSession :=
  if registrar.claims application session.name then { session with owner := some application }
  else session

variable [NamingService σ π]

/-- Publishes a name of an application, if it is visible outside its bundle and
not published yet, and says whether this call published it. -/
def register (registrar : Registrar σ) (application name : String) (payload : π) :
    Bool × Registrar σ :=
  if registrar.isPublished application name then (false, registrar)
  else if registrar.settings.isShared name then
    let key := bindingKey application name
    match NamingService.bind registrar.naming key payload true with
    | (.ok _, naming) =>
        (true,
          { registrar with
            naming := naming
            published := registrar.published.insert (application, name) key })
    | (.error cause, naming) =>
        (false,
          { registrar with
            naming := naming
            warnings := registrar.warnings ++ [.notPublished name application cause] })
  else (false, registrar)

/-- Withdraws a name of an application, if it is published, and says whether the
naming service unbound it. -/
def unregister (registrar : Registrar σ) (application name : String) : Bool × Registrar σ :=
  match registrar.published.get? (application, name) with
  | none => (false, registrar)
  | some key =>
      let published := registrar.published.erase (application, name)
      match NamingService.unbind registrar.naming key with
      | (.ok _, naming) =>
          (true, { registrar with naming := naming, published := published })
      | (.error cause, naming) =>
          (false,
            { registrar with
              naming := naming
              published := published
              warnings := registrar.warnings ++ [.notWithdrawn name cause] })

end Registrar

end ServerResources
