import ServerResources.Schema.Decoder

/-!
# Declared properties

A resource definition declares properties: names with a value or without one.
The same name may be declared several times.  `Property.declared` says what the
declarations amount to: the last one of a name gives the value, the first one
gives the place.  A name is confidential if any of its declarations is.
-/

namespace ServerResources

/-- One declared property. -/
structure Property where
  name : String
  value : Option String
  type : String
  description : Option String
  confidential : Bool
  deriving DecidableEq, Repr

namespace Property

/-- The type of a property that does not name one. -/
def defaultType : String := "java.lang.String"

/-- Reads a property. -/
def decode (origin : Origin) : Decoder Property :=
  Decoder.object origin "ConfigProperty" fun fields =>
    Property.mk
      <$> Decoder.required fields "name" Decoder.string
      <*> Decoder.optionalString fields "value"
      <*> Decoder.optional fields "type" defaultType Decoder.string
      <*> Decoder.optionalString fields "description"
      <*> Decoder.optional fields "confidential" false Decoder.boolean

/-- Writes a property with all of its fields. -/
def dump (property : Property) : Json :=
  .object
    [ ("name", .string property.name),
      ("value", .ofString? property.value),
      ("type", .string property.type),
      ("description", .ofString? property.description),
      ("confidential", .bool property.confidential) ]

/-- The declared names with their values. -/
def declared (properties : List Property) : OrderedMap String (Option String) :=
  .ofList (properties.map fun property => (property.name, property.value))

/-- The declared value of a name. -/
def value? (properties : List Property) (name : String) : Option String :=
  ((declared properties).get? name).join

/-- The names of the confidential declarations, one for each of them. -/
def confidentialNames (properties : List Property) : List String :=
  (properties.filter Property.confidential).map Property.name

end Property

end ServerResources
