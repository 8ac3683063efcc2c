import ServerResources.MailProperty
import ServerResources.Resource

/-!
# Mail resources

What consumers find in the naming directory: a mail session in the shape of a
mail resource that an administrator configured.  A mail resource reads from its
session and cannot be changed; its name is its own.

The session may be held itself or by reference, so the type takes what stands
for it as a parameter.
-/

namespace ServerResources

/-- A mail session under a resource name. -/
structure MailResource (μ : Type) where
  session : μ
  name : String
  deriving DecidableEq, Repr

namespace MailResource

/-- Replaces what stands for the session. -/
def map {μ ν : Type} (function : μ → ν) (resource : MailResource μ) : MailResource ν :=
  ⟨function resource.session, resource.name⟩

variable (resource : MailResource MailSession)

/-- The property that names the class of a protocol. -/
def classProperty (protocol : String) : String :=
  "mail." ++ protocol ++ ".class"

/-- The class of the store protocol, if there is a protocol. -/
def storeProtocolClass : Option String :=
  resource.session.storeProtocol.bind fun protocol =>
    resource.session.property? (classProperty protocol)

/-- The class of the transport protocol, if there is a protocol. -/
def transportProtocolClass : Option String :=
  resource.session.transportProtocol.bind fun protocol =>
    resource.session.property? (classProperty protocol)

/-- Mail resources always report what they do. -/
def debug : String := "true"

/-- Mail resources are always enabled. -/
def enabled : String := "true"

/-- Mail resources have no object type. -/
def objectType : Option String := none

/-- Mail resources have no place in an order of deployment. -/
def deploymentOrder : Option String := none

/-- The declared properties. -/
def properties : List MailProperty :=
  (Property.declared resource.session.properties).entries.map fun entry =>
    { name := entry.1, value := entry.2 }

/-- The property of a name, without a value if none is declared. -/
def property (name : String) : MailProperty :=
  { name := name, value := resource.session.property? name }

/-- The value of a property, with a value for when there is none. -/
def propertyValue (name : String) (absent : Option String) : Option String :=
  (resource.session.property? name).or absent

/-- Why a mail resource cannot be changed or searched. -/
inductive Refusal where
  | unsupported
  deriving DecidableEq, Repr

/-- The wording of a refusal. -/
def Refusal.message : Refusal → String
  | .unsupported => "Not supported yet."

/-- Mail resources take no further properties. -/
def addProperty (_resource : MailResource MailSession) (_property : MailProperty) :
    Except Refusal Unit :=
  .error .unsupported

/-- Mail resources are not searched for properties. -/
def lookupProperty (_resource : MailResource MailSession) (_name : String) :
    Except Refusal Unit :=
  .error .unsupported

/-- Mail resources lose no properties. -/
def removeProperty (_resource : MailResource MailSession) (_name : String) :
    Except Refusal Unit :=
  .error .unsupported

/-- Everything that a mail resource shows. -/
def dump : Json :=
  .object
    [ ("jndi_name", .string resource.name),
      ("store_protocol", .ofString? resource.session.storeProtocol),
      ("store_protocol_class", .ofString? resource.storeProtocolClass),
      ("transport_protocol", .ofString? resource.session.transportProtocol),
      ("transport_protocol_class", .ofString? resource.transportProtocolClass),
      ("host", .ofString? resource.session.host),
      ("user", .ofString? resource.session.user),
      ("from", .ofString? resource.session.sender),
      ("description", .ofString? resource.session.description),
      ("debug", .string debug),
      ("enabled", .string enabled),
      ("properties", .array (resource.properties.map MailProperty.dump)) ]

end MailResource

end ServerResources
