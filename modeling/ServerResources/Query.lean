import ServerResources.Introspector
import ServerResources.Lookup

/-!
# Queries about a connector

What can be asked about the administered objects of a connector.  Every question
needs a connector; the other arguments are those of the lookup behind it.
-/

namespace ServerResources.Query

/-- The connector that a question is about. -/
def subject (connector : Option Connector) : Except Fault Connector :=
  match connector with
  | some connector => .ok connector
  | none => .error (.missing .connector)

/-- The first administered object that implements an interface, by a given class
if one is given. -/
def adminObject (connector : Option Connector) (interface implementation : Option String) :
    Except Fault (Option AdminObject) := do
  let connector ← subject connector
  let found ← Lookup.find (some connector.adminObjects) interface implementation
  return found.map Lookup.Found.entity

/-- The name of the archive: the given one, unless there is none. -/
def archiveName (connector : Connector) (archive : Option String) : String :=
  match archive with
  | none | some "" => connector.name
  | some name => name

/-- The effective properties of an administered object. -/
def beanProperties (introspector : Introspector) (connector : Option Connector)
    (interface implementation archive : Option String) :
    Introspector.Consultation (Option PropertyBag) := do
  let connector ← subject connector
  match ← adminObject (some connector) interface implementation with
  | none => return none
  | some object => introspector.effective object (some (archiveName connector archive))

/-- The interfaces of the administered objects. -/
def interfaces (connector : Option Connector) : Except Fault (Option (List String)) := do
  let connector ← subject connector
  return Lookup.interfaces (some connector.adminObjects)

/-- The classes of the administered objects that implement an interface. -/
def classes (connector : Option Connector) (interface : Option String) :
    Except Fault (Option (List String)) := do
  let connector ← subject connector
  return Lookup.classes (some connector.adminObjects) interface

/-- Whether there is an administered object for an interface and a class. -/
def has (connector : Option Connector) (interface implementation : Option String) :
    Except Fault Bool := do
  let connector ← subject connector
  Lookup.has (some connector.adminObjects) interface implementation

/-- The confidential properties of an administered object, by its keys. -/
def confidential (connector : Option Connector) (keys : List (Option String)) :
    Except Fault (List String) :=
  match keys with
  | some interface :: rest => do
      let connector ← subject connector
      Lookup.confidential (some connector.adminObjects) (some interface :: rest)
  | _ => .error (.missing .adminObjectKey)

end ServerResources.Query
