import ServerResources.OrderedMap
import ServerResources.Binary64

/-!
# JSON values

Values as descriptors and requests are written in.  Integers are exact and of
any size; a numeral with a fraction or an exponent is a binary floating-point
number, so `1` and `1.0` are different values.  Objects keep the order of their
fields.

A string is any sequence of code points in the form of `Text.ofCodePoints`, also one
with a surrogate that has no partner, which an escape can name.  It is read, compared
and stored like any other, but it cannot be sent to a client (`Json.Obstacle`).
-/

namespace ServerResources

/-- A JSON value. -/
inductive Json where
  | null
  | bool (value : Bool)
  | int (value : Int)
  | float (value : Binary64)
  | string (value : String)
  | array (items : List Json)
  | object (fields : List (String × Json))
  deriving Inhabited

namespace Json

/-- A string, or null. -/
def ofString? : Option String → Json
  | none => .null
  | some text => .string text

/-- The array of some strings. -/
def ofStrings (texts : List String) : Json :=
  .array (texts.map .string)

/-- The first field of a name. -/
def field? (name : String) : Json → Option Json
  | .object fields => OrderedMap.find name fields
  | _ => none

end Json

end ServerResources
