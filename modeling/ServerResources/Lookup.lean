import ServerResources.Fault
import ServerResources.Resource
import ServerResources.Text.Ascending

/-!
# Looking up resource definitions

Questions about a collection of definitions, identified by interface and class.
Definitions are tried in order, so the first match wins.  A collection that is
absent or empty is no data: there is nothing to find, and that is no fault.
-/

namespace ServerResources.Lookup

variable {ρ : Type} [Configured ρ]

/-- Whether a definition implements an interface, by a given class if one is
given. -/
def fits (interface : String) (implementation : Option String) (entity : ρ) : Bool :=
  Configured.interface entity = interface
    && (implementation = none || Configured.implementation entity = implementation)

/-- A definition and its place in the collection. -/
structure Found (ρ : Type) where
  position : Nat
  entity : ρ

/-- The first definition that fits, counted from `position`. -/
def firstFrom (interface : String) (implementation : Option String) :
    Nat → List ρ → Option (Found ρ)
  | _, [] => none
  | position, entity :: rest =>
      if fits interface implementation entity then some ⟨position, entity⟩
      else firstFrom interface implementation (position + 1) rest

/-- The first definition that fits; nothing if there are no definitions. -/
def find (entities : Option (List ρ)) (interface implementation : Option String) :
    Except Fault (Option (Found ρ)) :=
  match interface with
  | none => .error (.missing .interface)
  | some interface =>
      match entities.getD [] with
      | [] => .ok none
      | entity :: rest =>
          match firstFrom interface implementation 0 (entity :: rest) with
          | some found => .ok (some found)
          | none => .error (.notFound interface implementation)

/-- The interface of every definition; nothing if there are no definitions. -/
def interfaces (entities : Option (List ρ)) : Option (List String) :=
  match entities.getD [] with
  | [] => none
  | entity :: rest => some ((entity :: rest).map Configured.interface)

/-- The distinct classes that implement an interface, ascending; nothing if there
are no definitions. -/
def classes (entities : Option (List ρ)) (interface : Option String) :
    Option (List String) :=
  match entities.getD [] with
  | [] => none
  | entity :: rest =>
      let implementing := (entity :: rest).filter fun entity =>
        some (Configured.interface entity) = interface
      some (Ascending.ofList (implementing.filterMap Configured.implementation))

/-- Whether there is a definition for an interface and a class. -/
def has (entities : Option (List ρ)) (interface implementation : Option String) :
    Except Fault Bool :=
  match interface, implementation with
  | some interface, some implementation =>
      .ok ((entities.getD []).any (fits interface (some implementation)))
  | _, _ => .error (.missing .interfaceAndClass)

/-- The names of the confidential properties of the first definition that fits
the keys: an interface and perhaps a class. -/
def confidential (entities : Option (List ρ)) (keys : List (Option String)) :
    Except Fault (List String) :=
  match keys with
  | some interface :: rest => do
      match ← find entities (some interface) rest.head?.join with
      | none => return []
      | some found => return Property.confidentialNames (Configured.properties found.entity)
  | _ => .error (.missing .lookupKey)

end ServerResources.Lookup
