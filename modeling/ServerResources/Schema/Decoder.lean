import ServerResources.Schema.Validated

/-!
# Decoders

A decoder reads one kind of value out of JSON.  Strings are never made from
other values; truth values are also accepted in a few customary spellings.
Objects are read field by field: fields that nobody asks for are ignored, and
the issues of the others are reported in the order in which they are asked for.

Documents of a kind that nests are read down to a fixed depth only.  What lies
deeper is refused unread.
-/

namespace ServerResources

universe u

/-- Reads one kind of value. -/
abbrev Decoder (α : Type u) :=
  Json → Validated α

/-- Where a document comes from, which decides how a value that should be an
object is complained about. -/
inductive Origin where
  | document
  | requestBody
  deriving DecidableEq, Repr

/-- The complaint about a value that is not the object of this title. -/
def Origin.notObject (origin : Origin) (title : String) : Complaint :=
  match origin with
  | .document => .notObject title
  | .requestBody => .notAttributes

namespace Decoder

variable {α : Type u}

/-- How many documents of a kind that nests may lie inside one another. -/
def depthLimit : Nat := 255

/-- A value at a depth, unless it lies too deep. -/
def atDepth (depth : Nat) (decode : Decoder α) : Decoder α := fun value =>
  if depthLimit < depth then .complain .tooDeep else decode value

/-- A string. -/
def string : Decoder String
  | .string value => .valid value
  | _ => .complain .notString

/-- Null, or a value. -/
def nullable (decode : Decoder α) : Decoder (Option α)
  | .null => .valid none
  | value => some <$> decode value

/-- The spellings of no. -/
def noWords : List String := ["0", "off", "f", "false", "n", "no"]

/-- The spellings of yes. -/
def yesWords : List String := ["1", "on", "t", "true", "y", "yes"]

/-- Integers that may spell a truth value have 64 bits with a sign: they are less
than this, and not less than its opposite. -/
def integerBound : Int := 9223372036854775808

/-- The truth value that an integer spells. -/
def booleanOfInt (value : Int) : Validated Bool :=
  if value = 0 then .valid false
  else if value = 1 then .valid true
  else .complain .unclearBoolean

/-- A truth value, also as a number or in one of the customary spellings, in
letters of either case. -/
def boolean : Decoder Bool
  | .bool value => .valid value
  | .int value =>
      if -integerBound ≤ value ∧ value < integerBound then booleanOfInt value
      else .complain .notBoolean
  | .float value =>
      match value.toInt? with
      | some value =>
          if -integerBound < value ∧ value < integerBound then booleanOfInt value
          else .complain .notBoolean
      | none => .complain .notBoolean
  | .string value =>
      let word := String.ofList (value.toList.map Char.toLower)
      if noWords.contains word then .valid false
      else if yesWords.contains word then .valid true
      else .complain .unclearBoolean
  | _ => .complain .notBoolean

/-- One of the strings of a table. -/
def choice (table : List (String × α)) : Decoder α
  | .string value =>
      match OrderedMap.find value table with
      | some chosen => .valid chosen
      | none => .complain (.notChoice (table.map Prod.fst))
  | _ => .complain (.notChoice (table.map Prod.fst))

/-- The items of an array, counted from `position`. -/
def items (decode : Decoder α) : Nat → List Json → Validated (List α)
  | _, [] => .valid []
  | position, item :: rest =>
      List.cons <$> (decode item).under (.index position) <*> items decode (position + 1) rest

/-- An array. -/
def list (decode : Decoder α) : Decoder (List α)
  | .array values => items decode 0 values
  | _ => .complain .notList

/-- A field that must be there. -/
def required (fields : List (String × Json)) (name : String) (decode : Decoder α) :
    Validated α :=
  match OrderedMap.find name fields with
  | some value => (decode value).under (.key name)
  | none => (Validated.complain .missing).under (.key name)

/-- A field with a value for when it is not there. -/
def optional (fields : List (String × Json)) (name : String) (absent : α)
    (decode : Decoder α) : Validated α :=
  match OrderedMap.find name fields with
  | some value => (decode value).under (.key name)
  | none => .valid absent

/-- A string that may be null or absent. -/
def optionalString (fields : List (String × Json)) (name : String) :
    Validated (Option String) :=
  optional fields name none (nullable string)

/-- A list that may be absent. -/
def optionalList (fields : List (String × Json)) (name : String) (decode : Decoder α) :
    Validated (List α) :=
  optional fields name [] (list decode)

/-- An object, read field by field. -/
def object (origin : Origin) (title : String)
    (read : List (String × Json) → Validated α) : Decoder α
  | .object fields => read fields
  | _ => .complain (origin.notObject title)

end Decoder

end ServerResources
