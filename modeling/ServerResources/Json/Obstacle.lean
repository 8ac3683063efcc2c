import ServerResources.Json
import ServerResources.Text.CodePoint

/-!
# What cannot be sent as JSON

A client is sent strict JSON in UTF-8, which has neither a numeral for an infinity
nor a form for a surrogate.  A value that has one of them anywhere in it, in the
name of a field for instance, cannot be sent.  An infinity is noticed first.
-/

namespace ServerResources.Json

/-- Why a value cannot be sent. -/
inductive Obstacle where
  | infinity
  | surrogate
  deriving DecidableEq, Repr

mutual

/-- The names of fields and the values without parts that are in a value. -/
def leaves : Json → List Json
  | .array items => itemLeaves items
  | .object fields => fieldLeaves fields
  | value => [value]

/-- The leaves of the items of an array. -/
def itemLeaves : List Json → List Json
  | [] => []
  | item :: rest => leaves item ++ itemLeaves rest

/-- The leaves of the fields of an object, with their names. -/
def fieldLeaves : List (String × Json) → List Json
  | [] => []
  | (name, value) :: rest => .string name :: (leaves value ++ fieldLeaves rest)

end

@[simp] theorem leaves_string (text : String) : (Json.string text).leaves = [.string text] := by
  simp [leaves]

/-- Whether a value is an infinity. -/
def isInfinite : Json → Bool
  | .float (.infinite _) => true
  | _ => false

/-- Whether a value is a text with a surrogate in it. -/
def isUnencodable : Json → Bool
  | .string text => !Text.isEncodable text
  | _ => false

/-- Why a value cannot be sent, if it cannot. -/
def obstacle? (value : Json) : Option Obstacle :=
  if value.leaves.any isInfinite then some .infinity
  else if value.leaves.any isUnencodable then some .surrogate
  else none

end ServerResources.Json
