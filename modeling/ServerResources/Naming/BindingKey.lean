import ServerResources.Schema.Decoder
import ServerResources.Text.Absent

/-!
# Binding keys

Under which key something is bound in the naming directory: a name, together
with the application and the module that own it.  Keys are equal only if all
three parts are, and an absent part differs from an empty one.
-/

namespace ServerResources

/-- A name and its owners. -/
structure BindingKey where
  name : String
  application : Option String := none
  module : Option String := none
  deriving DecidableEq, Repr

namespace BindingKey

/-- Reads a key. -/
def decode (origin : Origin) : Decoder BindingKey :=
  Decoder.object origin "ResourceInfo" fun fields =>
    BindingKey.mk
      <$> Decoder.required fields "name" Decoder.string
      <*> Decoder.optionalString fields "application"
      <*> Decoder.optionalString fields "module"

/-- Writes a key with all of its fields. -/
def dump (key : BindingKey) : Json :=
  .object
    [ ("name", .string key.name),
      ("application", .ofString? key.application),
      ("module", .ofString? key.module) ]

/-- A key as messages show it. -/
def text (key : BindingKey) : String :=
  "ResourceInfo[name=" ++ key.name
    ++ ", application=" ++ Text.orAbsent key.application
    ++ ", module=" ++ Text.orAbsent key.module ++ "]"

end BindingKey

end ServerResources
