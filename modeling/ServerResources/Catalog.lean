import ServerResources.Application
import ServerResources.OrderedMap

/-!
# The catalog

The descriptors that are known, by name, in the order in which their names
arrived.  Storing a descriptor under a name that is known replaces the old one
in its place.
-/

namespace ServerResources

/-- The known connectors and applications. -/
structure Catalog (μ : Type) where
  connectors : OrderedMap String Connector
  applications : OrderedMap String (Application μ)

namespace Catalog

variable {μ ν : Type}

/-- The catalog without descriptors. -/
def empty : Catalog μ :=
  ⟨∅, ∅⟩

/-- Stores a connector under its name. -/
def storeConnector (catalog : Catalog μ) (connector : Connector) : Catalog μ :=
  { catalog with connectors := catalog.connectors.insert connector.name connector }

/-- The connector of a name. -/
def connector? (catalog : Catalog μ) (name : String) : Option Connector :=
  catalog.connectors.get? name

/-- Removes a connector, if it is known. -/
def removeConnector (catalog : Catalog μ) (name : String) : Catalog μ :=
  { catalog with connectors := catalog.connectors.erase name }

/-- Stores an application under its name. -/
def storeApplication (catalog : Catalog μ) (application : Application μ) : Catalog μ :=
  { catalog with applications := catalog.applications.insert application.name application }

/-- The application of a name. -/
def application? (catalog : Catalog μ) (name : String) : Option (Application μ) :=
  catalog.applications.get? name

/-- Removes an application, if it is known. -/
def removeApplication (catalog : Catalog μ) (name : String) : Catalog μ :=
  { catalog with applications := catalog.applications.erase name }

/-- Replaces the mail sessions of all applications. -/
def map (function : μ → ν) (catalog : Catalog μ) : Catalog ν where
  connectors := catalog.connectors
  applications := catalog.applications.map (Application.map function)

/-- Everything that is known, given how mail sessions are written. -/
def dumpWith (session : μ → Json) (catalog : Catalog μ) : Json :=
  .object
    [ ("connectors", .array (catalog.connectors.values.map Connector.dump)),
      ("applications",
        .array (catalog.applications.values.map (Application.dumpWith session))) ]

/-- Everything that is known. -/
def dump : Catalog MailSession → Json :=
  dumpWith MailSession.dump

end Catalog

end ServerResources
