import ServerResources.Definitions
import ServerResources.Json.Depth
import ServerResources.Mistake
import ServerResources.Naming.ResourceName

/-!
# Values that do not fit

Any field of a definition may be overwritten by any JSON value.  A value that does
not fit its field is kept as it is, as one of the `Misfits`, until the field is
overwritten again, and it is shown wherever the field is shown.  Meanwhile the
definition itself holds a stand-in, so that whoever reads the definition finds
what a field of its kind can hold: the text of the value, or no properties.

Documents are written down to the depth to which they are read, so a definition
cannot be written while one of its misfits reaches deeper.
-/

namespace ServerResources

namespace MailSession

/-- Whether a field can hold a value.  No value is made of properties, so the only
one that fits their field is the array without items. -/
def Field.fits : Field → Json → Bool
  | .properties, .array [] => true
  | .properties, _ => false
  | _, .string _ => true
  | .name, _ | .interface, _ => false
  | _, .null => true
  | _, _ => false

/-- How deep a value in a field reaches, counted from the definition.  The array of
the properties does not count as a value of its own. -/
def Field.reach : Field → Json → Nat
  | .properties, .array items => Json.itemsDepth items
  | _, value => value.depth

/-- Names that tell something about the fields as a whole. -/
def readOnlyNames : List String :=
  ["model_extra", "model_fields_set"]

/-- What stands for a value in a field for a text that may be absent. -/
def standIn? : Json → Option String
  | .null => none
  | value => some value.display

/-- What stands for a value as the owner.  A value that says nothing is no owner;
the empty text is kept apart from none. -/
def ownerFor? : Json → Option String
  | .string text => some text
  | value => if value.isEmpty then none else some value.display

/-- The session with a field overwritten by a value, or by what stands for it. -/
def assign (session : MailSession) (field : Field) (value : Json) : MailSession :=
  match field with
  | .name => { session with name := value.display }
  | .interface => { session with interface := value.display }
  | .implementation => { session with implementation := standIn? value }
  | .description => { session with description := standIn? value }
  | .storeProtocol => { session with storeProtocol := standIn? value }
  | .transportProtocol => { session with transportProtocol := standIn? value }
  | .host => { session with host := standIn? value }
  | .user => { session with user := standIn? value }
  | .password => { session with password := standIn? value }
  | .sender => { session with sender := standIn? value }
  | .properties => { session with properties := [] }
  | .owner => { session with owner := ownerFor? value }

end MailSession

/-- The resource name for an owner and a name of any kind.  Whether the owner goes in
front of the name depends on how the name begins, so with an owner it must be a
text. -/
def Settings.resourceName? (settings : Settings) (owner name : Json) : Except Mistake String :=
  match name with
  | .string text => .ok (settings.resourceName (MailSession.ownerFor? owner) text)
  | other =>
      if owner.isEmpty then .ok (settings.resourceName none other.display)
      else .error (.notText other.kind)

/-- The values that do not fit, by definition and field. -/
abbrev Misfits := OrderedMap (DefinitionId × MailSession.Field) Json

namespace Misfits

/-- The misfits after a field of a definition is overwritten by a value. -/
def note (misfits : Misfits) (id : DefinitionId) (field : MailSession.Field) (value : Json) :
    Misfits :=
  if field.fits value then misfits.erase (id, field) else misfits.insert (id, field) value

/-- An object with the misfits of a definition in place of what stands for them,
given which field each entry shows. -/
def overlay (misfits : Misfits) (id : DefinitionId)
    (fieldOf? : String → Option MailSession.Field) : Json → Json
  | .object entries =>
      .object (entries.map fun entry =>
        (entry.1, ((fieldOf? entry.1).bind fun field => misfits.get? (id, field)).getD entry.2))
  | other => other

/-- Checks that a definition at a depth can be written. -/
def checkDepth (misfits : Misfits) (depth : Nat) (id : DefinitionId) : Except Mistake Unit :=
  let tooDeep (field : MailSession.Field) : Bool :=
    (misfits.get? (id, field)).any fun value => Decoder.depthLimit < depth + field.reach value
  if MailSession.Field.all.any tooDeep then .error .tooDeep else .ok ()

/-- A misfit is kept as it is, and a value that fits is not among them. -/
theorem get?_note_self (misfits : Misfits) (id : DefinitionId) (field : MailSession.Field)
    (value : Json) :
    (misfits.note id field value).get? (id, field) =
      if field.fits value then none else some value := by
  cases fitting : field.fits value <;> simp [note, fitting]

end Misfits

namespace MailSession

/-- Only the array without items fits the properties. -/
theorem eq_nil_of_fits_properties {value : Json}
    (fitting : Field.properties.fits value = true) : value = .array [] := by
  cases value with
  | array items =>
      cases items with
      | nil => rfl
      | cons item rest => simp [Field.fits] at fitting
  | _ => simp [Field.fits] at fitting

/-- A value that fits reaches no deeper than a text, so a definition without misfits
can be written wherever it was read. -/
theorem reach_le_one_of_fits (field : Field) (value : Json) (fitting : field.fits value = true) :
    field.reach value ≤ 1 := by
  cases field
  case properties =>
    rw [eq_nil_of_fits_properties fitting]
    decide
  all_goals
    cases value <;> simp_all [Field.fits, Field.reach, Json.depth]

/-- A value that fits is what the field then holds. -/
theorem dump_assign_of_fits (session : MailSession) (field : Field) (value : Json)
    (fitting : field.fits value = true) :
    (session.assign field value).dump.field? field.key = some value := by
  cases field
  case properties =>
    rw [eq_nil_of_fits_properties fitting]
    simp [assign, dump, Json.field?, OrderedMap.find, Field.key]
  all_goals
    cases value <;>
      simp_all [Field.fits, assign, dump, Json.field?, OrderedMap.find, Field.key,
        Json.ofString?, standIn?, ownerFor?, Json.isEmpty]

end MailSession

end ServerResources
