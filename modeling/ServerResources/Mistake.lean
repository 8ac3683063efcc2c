import ServerResources.Json.Display

/-!
# Mistakes

What goes wrong when a value is put, or used, where a value like it is of no use.
-/

namespace ServerResources

/-- Why a value is of no use in its place. -/
inductive Mistake where
  /-- A name is compared with the start of a scope, but is no text. -/
  | notText (kind : Json.Kind)
  /-- A name is looked up among others, but has parts. -/
  | notKey (kind : Json.Kind)
  /-- Properties are gone through, but the value has no elements. -/
  | notIterable (kind : Json.Kind)
  /-- Properties are gone through, but an element is no property. -/
  | notProperty (kind : Json.Kind)
  /-- There is no field of the name. -/
  | noField (name : String)
  /-- What the name stands for cannot be overwritten. -/
  | readOnly (name : String)
  /-- A value is written inside too many others. -/
  | tooDeep
  deriving DecidableEq, Repr

namespace Mistake

/-- The wording of a mistake. -/
def message : Mistake → String
  | .notText kind => "'" ++ kind.word ++ "' object has no attribute 'startswith'"
  | .notKey kind => "unhashable type: '" ++ kind.word ++ "'"
  | .notIterable kind => "'" ++ kind.word ++ "' object is not iterable"
  | .notProperty kind => "'" ++ kind.word ++ "' object has no attribute 'value'"
  | .noField name => "\"MailSessionDefinition\" object has no field \"" ++ name ++ "\""
  | .readOnly name =>
      "property '" ++ name ++ "' of 'MailSessionDefinition' object has no setter"
  | .tooDeep => "Maximum serialization depth exceeded"

/-- Checks that a value can be looked up among texts: it must not have parts. -/
def checkKey (value : Json) : Except Mistake Unit :=
  if value.kind.isComposite then .error (.notKey value.kind) else .ok ()

/-- Checks that no element of a value is used as a property: no value but a
property can be, so there must be none. -/
def checkProperties (value : Json) : Except Mistake Unit :=
  match value.elements? with
  | none => .error (.notIterable value.kind)
  | some [] => .ok ()
  | some (element :: _) => .error (.notProperty element.kind)

/-- A text can always be looked up. -/
@[simp] theorem checkKey_string (text : String) : checkKey (.string text) = .ok () :=
  rfl

theorem checkProperties_eq_ok_iff (value : Json) :
    checkProperties value = .ok () ↔ value.elements? = some [] := by
  unfold checkProperties
  split <;> simp_all

end Mistake

end ServerResources
