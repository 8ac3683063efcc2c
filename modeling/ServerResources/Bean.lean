import ServerResources.Binary64.Shortest
import ServerResources.PropertyBag
import ServerResources.Text.Begins
import ServerResources.Text.Lowercase

/-!
# Bean classes

A bean is a class that is constructed without arguments, and its defaults are
what can be read from it right after construction: the values of its public
properties that have both a getter and a setter, then the values of its public
attributes.  Only scalar values count, and they are read as text.

A class is a chain of layers, the most derived one first.  A member that a layer
defines hides the member of that name in the layers behind it, whatever kind of
member either is.

Beans are idealized in three ways.  Their values are plain: a scalar is of one of
the kinds below and not of a kind derived from it, which could have a text of its
own.  Whatever a constructor or a getter raises is an ordinary error with a text,
which the reader of the bean catches.  And nothing else takes part in the reading
of an attribute, neither a hook of the class nor a limit on the size of a number.
-/

namespace ServerResources

namespace Bean

/-- The value of an attribute or a property.  A scalar is a plain one, whose text is
the one that its kind gives it. -/
inductive Value where
  | null
  | text (value : String)
  | boolean (value : Bool)
  | integer (value : Int)
  | float (value : Binary64)
  /-- A value with parts, which has no text. -/
  | composite
  deriving DecidableEq, Repr

/-- Numbers are positional from `0.0001` up to, but not including, 10 ^ 16, and
integral numbers keep a zero after the point. -/
def numberLayout : Binary64.Layout where
  positionalFrom := -4
  positionalBelow := 16
  integralSuffix := ".0"
  exponentWidth := 2
  infinity := "inf"

/-- The text of a scalar value.  Every integer has one, however many digits that
takes. -/
def Value.text? : Value → Option String
  | .null => some ""
  | .text value => some value
  | .boolean true => some "true"
  | .boolean false => some "false"
  | .integer value => some (toString value)
  | .float value => some (numberLayout.text value)
  | .composite => none

/-- What a getter does: it returns a value, or raises an ordinary error with a text.
Getters that do not come back, or that end the program, are left out. -/
inductive Getter where
  | returns (value : Value)
  | raises (cause : String)
  deriving DecidableEq, Repr

/-- A member of a class. -/
inductive Member where
  /-- A class attribute, which is not a property. -/
  | classAttribute
  | property (getter : Option Getter) (hasSetter : Bool)
  deriving DecidableEq, Repr

/-- What one class of the chain contributes.  The instance attributes are those that
its constructor writes, with plain values; the members are properties and class
attributes, and the class has no other way to take part in reading one. -/
structure Layer where
  /-- What the constructor writes to the instance, in order. -/
  attributes : List (String × Value) := []
  /-- The members in order of definition; the last of a name counts. -/
  members : List (String × Member) := []
  /-- The text of the error that the constructor raises, which is an ordinary one. -/
  constructorFailure : Option String := none
  /-- Whether the constructor can write to the instance. -/
  writesAttributes : Bool := true
  deriving DecidableEq, Repr

/-- The member of a name that a layer defines. -/
def Layer.member? (layer : Layer) (name : String) : Option Member :=
  OrderedMap.find name layer.members.reverse

end Bean

/-- A bean class: its layers, the most derived one first. -/
structure Bean where
  layers : List Bean.Layer
  deriving DecidableEq, Repr

namespace Bean

/-! ## Reading -/

/-- The member that a name refers to. -/
def visible (bean : Bean) (name : String) : Option Member :=
  bean.layers.findSome? fun layer => layer.member? name

/-- The names of all members, ascending. -/
def memberNames (bean : Bean) : List String :=
  Ascending.ofList (bean.layers.flatMap fun layer => layer.members.map Prod.fst)

/-- Names that begin with an underscore are private. -/
def isPublic (name : String) : Bool :=
  !Text.begins "_" name

/-- The getter of a name, if it is that of a public property with a setter. -/
def readable (bean : Bean) (name : String) : Option Getter :=
  if isPublic name then
    match bean.visible name with
    | some (.property (some getter) true) => some getter
    | _ => none
  else none

/-- The error that construction ends in. -/
def constructorFailure (bean : Bean) : Option String :=
  bean.layers.findSome? Layer.constructorFailure

/-- The attributes of an instance: base layers write first, and an overwritten
attribute keeps its place. -/
def attributes (bean : Bean) : OrderedMap String Value :=
  bean.layers.foldr
    (fun layer written =>
      if layer.writesAttributes then written.insertAll layer.attributes else written)
    ∅

/-- A property whose getter raised. -/
structure ReadFailure where
  property : String
  cause : String
  deriving DecidableEq, Repr

/-- Reads the properties of some names, up to the first getter that raises. -/
def readProperties (bean : Bean) : List String → Except ReadFailure (List (String × String))
  | [] => .ok []
  | name :: rest =>
      match bean.readable name with
      | none => bean.readProperties rest
      | some (.raises cause) => .error ⟨name, cause⟩
      | some (.returns value) => do
          let entries ← bean.readProperties rest
          match value.text? with
          | some text => return (name, text) :: entries
          | none => return entries

/-- The public attributes with a scalar value, as text. -/
def attributeTexts (bean : Bean) : List (String × String) :=
  bean.attributes.entries.filterMap fun entry =>
    if isPublic entry.1 then entry.2.text?.map fun text => (entry.1, text) else none

/-- The defaults of a bean: its properties in ascending order, then its
attributes, which replace the properties of their names. -/
def defaults (bean : Bean) : Except ReadFailure PropertyBag := do
  let properties ← bean.readProperties bean.memberNames
  return (OrderedMap.ofList properties).insertAll bean.attributeTexts

/-! ## Matching declared names -/

/-- The attributes that are still to be matched, by their names in small letters,
and the result so far. -/
structure Matching where
  remaining : OrderedMap String String
  result : PropertyBag

/-- Before any name is matched.  Of attributes that differ only in case the last
one counts. -/
def Matching.start (defaults : PropertyBag) : Matching where
  remaining := .ofList (defaults.keys.map fun name => (Text.lowercase name, name))
  result := ∅

/-- Gives a declared name the default of the attribute that it matches. -/
def Matching.claim (defaults : PropertyBag) (state : Matching) (name : String) : Matching :=
  let key := Text.lowercase name
  match state.remaining.get? key with
  | none => state
  | some source =>
      { remaining := state.remaining.erase key
        result := state.result.insert name ((defaults.get? source).getD "") }

/-- Gives the attributes that no declared name matches their own names. -/
def Matching.finish (defaults : PropertyBag) (state : Matching) : PropertyBag :=
  state.result.insertAll <|
    state.remaining.values.map fun source =>
      (source, (defaults.get? source).getD "")

/-- The defaults under the names that a definition declares.  A declared name
matches an attribute whatever their case; the first spelling takes it. -/
def matchNames (defaults : PropertyBag) (known : List String) : PropertyBag :=
  (known.foldl (Matching.claim defaults) (Matching.start defaults)).finish defaults

end Bean

end ServerResources
