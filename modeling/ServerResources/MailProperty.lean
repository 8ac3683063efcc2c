import ServerResources.Schema.Decoder

/-!
# Properties of mail resources

The form in which a mail resource shows its properties.
-/

namespace ServerResources

/-- A property of a mail resource. -/
structure MailProperty where
  name : String
  value : Option String := none
  description : Option String := none
  deriving DecidableEq, Repr

namespace MailProperty

/-- Reads a property of a mail resource. -/
def decode (origin : Origin) : Decoder MailProperty :=
  Decoder.object origin "MailSessionProperty" fun fields =>
    MailProperty.mk
      <$> Decoder.required fields "name" Decoder.string
      <*> Decoder.optionalString fields "value"
      <*> Decoder.optionalString fields "description"

/-- Writes a property with all of its fields. -/
def dump (property : MailProperty) : Json :=
  .object
    [ ("name", .string property.name),
      ("value", .ofString? property.value),
      ("description", .ofString? property.description) ]

end MailProperty

end ServerResources
