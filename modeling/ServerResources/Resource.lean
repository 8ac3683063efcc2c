import ServerResources.Property

/-!
# Resource definitions

Two kinds of resource are looked up in the same way: the administered objects
of a connector and the mail sessions of an application.  Both implement an
interface, may name the class that does so, and declare properties.
-/

namespace ServerResources

/-- What a lookup sees of a resource definition. -/
class Configured (ρ : Type) where
  interface : ρ → String
  implementation : ρ → Option String
  properties : ρ → List Property

/-- An administered object that a connector offers. -/
structure AdminObject where
  interface : String
  implementation : Option String
  properties : List Property
  deriving DecidableEq, Repr

namespace AdminObject

/-- Reads an administered object. -/
def decode (origin : Origin) : Decoder AdminObject :=
  Decoder.object origin "AdminObjectDefinition" fun fields =>
    AdminObject.mk
      <$> Decoder.required fields "interface_name" Decoder.string
      <*> Decoder.optionalString fields "class_name"
      <*> Decoder.optionalList fields "config_properties" (Property.decode origin)

/-- Writes an administered object with all of its fields. -/
def dump (object : AdminObject) : Json :=
  .object
    [ ("interface_name", .string object.interface),
      ("class_name", .ofString? object.implementation),
      ("config_properties", .array (object.properties.map Property.dump)) ]

instance : Configured AdminObject where
  interface := interface
  implementation := implementation
  properties := properties

end AdminObject

/-- The descriptor of a connector archive. -/
structure Connector where
  name : String
  adminObjects : List AdminObject
  deriving DecidableEq, Repr

namespace Connector

/-- Reads a connector descriptor. -/
def decode (origin : Origin) : Decoder Connector :=
  Decoder.object origin "ConnectorDescriptor" fun fields =>
    Connector.mk
      <$> Decoder.required fields "name" Decoder.string
      <*> Decoder.optionalList fields "admin_objects" (AdminObject.decode origin)

/-- Writes a connector descriptor with all of its fields. -/
def dump (connector : Connector) : Json :=
  .object
    [ ("name", .string connector.name),
      ("admin_objects", .array (connector.adminObjects.map AdminObject.dump)) ]

end Connector

/-- The interface of mail sessions. -/
def mailSessionInterface : String := "jakarta.mail.Session"

/-- A mail session that an application or one of its components defines. -/
structure MailSession where
  /-- The name in the naming directory. -/
  name : String
  interface : String
  implementation : Option String
  description : Option String
  storeProtocol : Option String
  transportProtocol : Option String
  host : Option String
  user : Option String
  password : Option String
  sender : Option String
  properties : List Property
  /-- The application or component that the session belongs to. -/
  owner : Option String
  deriving DecidableEq, Repr

namespace MailSession

/-- The sender's address has a short name, which wins, and a long one. -/
def senderField (fields : List (String × Json)) : String :=
  if (OrderedMap.find "from" fields).isSome then "from" else "from_address"

/-- Reads a mail session. -/
def decode (origin : Origin) : Decoder MailSession :=
  Decoder.object origin "MailSessionDefinition" fun fields =>
    MailSession.mk
      <$> Decoder.required fields "name" Decoder.string
      <*> Decoder.optional fields "interface_name" mailSessionInterface Decoder.string
      <*> Decoder.optionalString fields "class_name"
      <*> Decoder.optionalString fields "description"
      <*> Decoder.optionalString fields "store_protocol"
      <*> Decoder.optionalString fields "transport_protocol"
      <*> Decoder.optionalString fields "host"
      <*> Decoder.optionalString fields "user"
      <*> Decoder.optionalString fields "password"
      <*> Decoder.optionalString fields (senderField fields)
      <*> Decoder.optionalList fields "config_properties" (Property.decode origin)
      <*> Decoder.optionalString fields "resource_id"

/-- Writes a mail session with all of its fields, the sender under its long
name. -/
def dump (session : MailSession) : Json :=
  .object
    [ ("name", .string session.name),
      ("interface_name", .string session.interface),
      ("class_name", .ofString? session.implementation),
      ("description", .ofString? session.description),
      ("store_protocol", .ofString? session.storeProtocol),
      ("transport_protocol", .ofString? session.transportProtocol),
      ("host", .ofString? session.host),
      ("user", .ofString? session.user),
      ("password", .ofString? session.password),
      ("from_address", .ofString? session.sender),
      ("config_properties", .array (session.properties.map Property.dump)),
      ("resource_id", .ofString? session.owner) ]

instance : Configured MailSession where
  interface := interface
  implementation := implementation
  properties := properties

/-- The declared value of a property. -/
def property? (session : MailSession) (name : String) : Option String :=
  Property.value? session.properties name

/-- A field of a mail session. -/
inductive Field where
  | name
  | interface
  | implementation
  | description
  | storeProtocol
  | transportProtocol
  | host
  | user
  | password
  | sender
  | properties
  | owner
  deriving DecidableEq, Repr

namespace Field

/-- All fields, in the order of a document. -/
def all : List Field :=
  [.name, .interface, .implementation, .description, .storeProtocol, .transportProtocol,
    .host, .user, .password, .sender, .properties, .owner]

/-- The key of a field in a document that was written. -/
def key : Field → String
  | .name => "name"
  | .interface => "interface_name"
  | .implementation => "class_name"
  | .description => "description"
  | .storeProtocol => "store_protocol"
  | .transportProtocol => "transport_protocol"
  | .host => "host"
  | .user => "user"
  | .password => "password"
  | .sender => "from_address"
  | .properties => "config_properties"
  | .owner => "resource_id"

/-- The field of a key. -/
def ofKey? (key : String) : Option Field :=
  all.find? fun field => field.key = key

theorem ofKey?_key (field : Field) : ofKey? field.key = some field := by
  cases field <;> decide

end Field

end MailSession

/-- A resource definition of either kind. -/
inductive Resource where
  | adminObject (object : AdminObject)
  | mailSession (session : MailSession)
  deriving DecidableEq, Repr

namespace Resource

/-- Writes a definition in the form of its kind. -/
def dump : Resource → Json
  | .adminObject object => object.dump
  | .mailSession session => session.dump

instance : Configured Resource where
  interface
    | .adminObject object => object.interface
    | .mailSession session => session.interface
  implementation
    | .adminObject object => object.implementation
    | .mailSession session => session.implementation
  properties
    | .adminObject object => object.properties
    | .mailSession session => session.properties

end Resource

end ServerResources
