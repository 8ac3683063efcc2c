import ServerResources.Application

/-!
# Definitions with identity

A definition may be referred to from several places: its application and the
mail resources that were made from it.  Whoever looks through a reference sees
the definition as it is now, so definitions are kept in a table and referred to
by their position in it.  Definitions are added at the end and never removed.
-/

namespace ServerResources

/-- A reference to a definition. -/
abbrev DefinitionId := Nat

/-- A mail session without any content. -/
def MailSession.blank : MailSession where
  name := ""
  interface := mailSessionInterface
  implementation := none
  description := none
  storeProtocol := none
  transportProtocol := none
  host := none
  user := none
  password := none
  sender := none
  properties := []
  owner := none

/-- The definitions, by reference. -/
structure Definitions where
  sessions : List MailSession
  deriving DecidableEq, Repr

namespace Definitions

/-- The table without definitions. -/
def empty : Definitions :=
  ⟨[]⟩

/-- The definition behind a reference. -/
def get (definitions : Definitions) (id : DefinitionId) : MailSession :=
  definitions.sessions.getD id MailSession.blank

/-- Overwrites the definition behind a reference. -/
def set (definitions : Definitions) (id : DefinitionId) (session : MailSession) :
    Definitions :=
  ⟨definitions.sessions.set id session⟩

/-- Adds a definition and gives its reference. -/
def add (definitions : Definitions) (session : MailSession) : DefinitionId × Definitions :=
  (definitions.sessions.length, ⟨definitions.sessions ++ [session]⟩)

/-- Adds the definitions of an application and replaces them by references. -/
def install (definitions : Definitions) (application : Application MailSession) :
    Application DefinitionId × Definitions :=
  (application.mapM (m := StateM Definitions) fun session definitions =>
    definitions.add session).run definitions

/-- The application with the definitions behind its references. -/
def read (definitions : Definitions) (application : Application DefinitionId) :
    Application MailSession :=
  application.map definitions.get

theorem get_set_self (definitions : Definitions) {id : DefinitionId} (session : MailSession)
    (known : id < definitions.sessions.length) :
    (definitions.set id session).get id = session := by
  simp [get, set, List.getD_eq_getElem?_getD, known]

theorem get_set_of_ne (definitions : Definitions) {id other : DefinitionId}
    (session : MailSession) (different : id ≠ other) :
    (definitions.set id session).get other = definitions.get other := by
  simp [get, set, List.getD_eq_getElem?_getD, List.getElem?_set_ne different]

end Definitions

end ServerResources
