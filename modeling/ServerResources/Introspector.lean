import ServerResources.Bean.Loader
import ServerResources.Resource

/-!
# Introspectors

An introspector knows the defaults of implementation classes.  All that it is
told is the name of the class, the names of the properties that a definition
declares and the name of the archive; in particular it never sees a declared
value.

Consultations are recorded: a computation that may consult an introspector
carries the list of the calls made so far.
-/

namespace ServerResources

/-- A source of defaults. -/
structure Introspector where
  /-- The defaults of a class, given the declared names and the archive. -/
  defaults : (className : String) → (known : List String) → (archive : Option String) →
    Except Fault PartialBag

namespace Introspector

/-- Knows the defaults of some classes; all others have none. -/
def ofTable (table : List (String × PartialBag)) : Introspector where
  defaults className _ _ := .ok ((OrderedMap.find className table).getD ∅)

/-- Loads the class, constructs it and reads its defaults under the declared
names. -/
def readBean (load : Bean.Loader) (className : String) (known : List String)
    (archive : Option String) : Except Fault PropertyBag := do
  let bean ← load className
  match bean.constructorFailure with
  | some cause => .error (.introspection (.notConstructed className archive cause))
  | none =>
      match bean.defaults with
      | .error failure =>
          .error (.introspection (.unreadable failure.property className failure.cause))
      | .ok defaults => .ok (Bean.matchNames defaults known)

/-- Reads the defaults of beans. -/
def ofLoader (load : Bean.Loader) : Introspector where
  defaults className known archive :=
    PropertyBag.toPartial <$> readBean load className known archive

/-- What an introspector was asked. -/
structure Call where
  className : String
  known : List String
  archive : Option String
  deriving DecidableEq, Repr

/-- A computation that may consult an introspector, and may fail. -/
abbrev Consultation := ExceptT Fault (StateM (List Call))

/-- Asks an introspector. -/
def ask (introspector : Introspector) (call : Call) : Consultation PartialBag := do
  modify (· ++ [call])
  introspector.defaults call.className call.known call.archive

/-- The effective properties of a definition: what it declares over the defaults
of its class.  Without a class there are none. -/
def effective {ρ : Type} [Configured ρ] (introspector : Introspector) (entity : ρ)
    (archive : Option String) : Consultation (Option PropertyBag) := do
  match Configured.implementation entity with
  | none | some "" => return none
  | some className =>
      let properties := Configured.properties entity
      let defaults ← introspector.ask ⟨className, properties.map Property.name, archive⟩
      return some (PropertyBag.merge (Property.declared properties) defaults)

end Introspector

end ServerResources
