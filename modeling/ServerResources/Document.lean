import ServerResources.Application
import ServerResources.Settings
import ServerResources.Naming.BindingKey
import ServerResources.MailProperty
import ServerResources.RegistrationReport

/-!
# Documents by title

Every kind of document that the library reads and writes, under the title that
its complaints show.  `normalize?` reads a document and writes it back in full.
-/

namespace ServerResources.Document

/-- Reads a document of one kind and writes it back. -/
def normalizeWith {α : Type} (decode : Decoder α) (dump : α → Json) : Decoder Json :=
  fun value => dump <$> decode value

/-- The kinds of document by title. -/
def kinds : List (String × Decoder Json) :=
  [ ("ConfigProperty", normalizeWith (Property.decode .document) Property.dump),
    ("AdminObjectDefinition", normalizeWith (AdminObject.decode .document) AdminObject.dump),
    ("ConnectorDescriptor", normalizeWith (Connector.decode .document) Connector.dump),
    ("MailSessionDefinition", normalizeWith (MailSession.decode .document) MailSession.dump),
    ("ComponentDescriptor", normalizeWith (Component.decode .document) Component.dump),
    ("BundleDescriptor", normalizeWith (Bundle.decode .document) Bundle.dump),
    ("ApplicationDescriptor", normalizeWith (Application.decode .document) Application.dump),
    ("ConnectorRuntimeConfig", normalizeWith (Settings.decode .document) Settings.dump),
    ("ResourceInfo", normalizeWith (BindingKey.decode .document) BindingKey.dump),
    ("MailSessionProperty", normalizeWith (MailProperty.decode .document) MailProperty.dump),
    ("RegistrationResponse",
      normalizeWith (RegistrationReport.decode .document) RegistrationReport.dump) ]

/-- Reads a document and writes it back, if there is a kind of this title. -/
def normalize? (title : String) (value : Json) : Option (Validated Json) :=
  (OrderedMap.find title kinds).map fun normalize => normalize value

end ServerResources.Document
