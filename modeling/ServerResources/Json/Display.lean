import ServerResources.Json.Writer
import ServerResources.Text.Absent
import ServerResources.Text.Quoted

/-!
# JSON values in messages

Names and messages show a JSON value in a notation of their own: truth values are
capitalized, what is not there has a word, and a text stands for itself, or
between quotes if it is part of another value.

Messages about a value that is of no use in its place name its kind.
-/

namespace ServerResources.Json

/-- The kinds of value. -/
inductive Kind where
  | null
  | boolean
  | integer
  | float
  | string
  | array
  | object
  deriving DecidableEq, Repr

/-- The kind of a value. -/
def kind : Json → Kind
  | .null => .null
  | .bool _ => .boolean
  | .int _ => .integer
  | .float _ => .float
  | .string _ => .string
  | .array _ => .array
  | .object _ => .object

/-- The word for a kind. -/
def Kind.word : Kind → String
  | .null => "NoneType"
  | .boolean => "bool"
  | .integer => "int"
  | .float => "float"
  | .string => "str"
  | .array => "list"
  | .object => "dict"

/-- Whether the values of a kind have parts. -/
def Kind.isComposite : Kind → Bool
  | .array | .object => true
  | _ => false

/-- Whether a value says nothing: it is null, false, zero, or without content. -/
def isEmpty : Json → Bool
  | .null | .bool false | .int 0 | .string "" | .array [] | .object [] => true
  | .float (.finite _ significand _) => significand = 0
  | _ => false

/-- What a value yields when it is gone through: the items of an array, the names
of an object, the code points of a text. -/
def elements? : Json → Option (List Json)
  | .array items => some items
  | .object fields => some (fields.map fun field => .string field.1)
  | .string text =>
      some ((Text.codePoints text).map fun code => .string (Text.ofCodePoints [code]))
  | _ => none

/-- Numbers are laid out as in JSON, but an infinity has a word. -/
def displayLayout : Binary64.Layout :=
  { numberLayout with infinity := "inf" }

mutual

/-- A value as part of another one. -/
def displayInside : Json → String
  | .null => Text.absent
  | .bool true => "True"
  | .bool false => "False"
  | .int value => toString value
  | .float value => displayLayout.text value
  | .string value => Text.quoted value
  | .array items => "[" ++ String.intercalate ", " (displayItems items) ++ "]"
  | .object fields => "\x7b" ++ String.intercalate ", " (displayFields fields) ++ "\x7d"

/-- The items of an array. -/
def displayItems : List Json → List String
  | [] => []
  | item :: rest => displayInside item :: displayItems rest

/-- The fields of an object. -/
def displayFields : List (String × Json) → List String
  | [] => []
  | (name, value) :: rest =>
      (Text.quoted name ++ ": " ++ displayInside value) :: displayFields rest

end

/-- A value as names and messages show it. -/
def display : Json → String
  | .string text => text
  | value => displayInside value

@[simp] theorem display_string (text : String) : display (.string text) = text := by
  simp [display]

@[simp] theorem display_null : display .null = Text.absent := by
  simp [display, displayInside]

theorem displayItems_eq_map (items : List Json) :
    displayItems items = items.map displayInside := by
  induction items with
  | nil => simp [displayItems]
  | cons item rest ih => simp [displayItems, ih]

/-- Exactly the kinds that have a first element can be gone through at all. -/
theorem elements?_isSome_iff (value : Json) :
    value.elements?.isSome ↔
      value.kind = .array ∨ value.kind = .object ∨ value.kind = .string := by
  cases value <;> simp [elements?, kind]

end ServerResources.Json
