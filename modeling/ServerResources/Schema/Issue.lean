import ServerResources.Json

/-!
# Issues of a document

An issue says what is wrong at which place of a JSON document.  Its code and
wording are those that clients of the service are shown.
-/

namespace ServerResources

/-- One step from a value into a part of it. -/
inductive Segment where
  | key (name : String)
  | index (position : Nat)
  deriving DecidableEq, Repr

/-- What is wrong with a value, or with a field that is not there. -/
inductive Complaint where
  | missing
  | notString
  | notList
  | notBoolean
  /-- A text or number that could be a truth value, but is none. -/
  | unclearBoolean
  | notChoice (choices : List String)
  /-- Not an object, where the object of this title is required. -/
  | notObject (title : String)
  /-- Not an object, inside the body of a request. -/
  | notAttributes
  /-- Inside too many documents of a kind that nests. -/
  | tooDeep
  deriving DecidableEq, Repr

namespace Complaint

/-- The short name of a complaint. -/
def code : Complaint → String
  | .missing => "missing"
  | .notString => "string_type"
  | .notList => "list_type"
  | .notBoolean => "bool_type"
  | .unclearBoolean => "bool_parsing"
  | .notChoice _ => "enum"
  | .notObject _ => "model_type"
  | .notAttributes => "model_attributes_type"
  | .tooDeep => "recursion_depth_exceeded"

/-- Texts in single quotes, with commas and a final `or`. -/
def alternatives : List String → String
  | [] => ""
  | [last] => "'" ++ last ++ "'"
  | [first, last] => "'" ++ first ++ "' or '" ++ last ++ "'"
  | first :: rest => "'" ++ first ++ "', " ++ alternatives rest

/-- The wording of a complaint. -/
def message : Complaint → String
  | .missing => "Field required"
  | .notString => "Input should be a valid string"
  | .notList => "Input should be a valid list"
  | .notBoolean => "Input should be a valid boolean"
  | .unclearBoolean => "Input should be a valid boolean, unable to interpret input"
  | .notChoice choices => "Input should be " ++ alternatives choices
  | .notObject title => "Input should be a valid dictionary or instance of " ++ title
  | .notAttributes => "Input should be a valid dictionary or object to extract fields from"
  | .tooDeep => "Recursion error - maximum validation depth exceeded"

end Complaint

/-- A complaint and its place, from the outside in. -/
structure Issue where
  location : List Segment
  complaint : Complaint
  deriving DecidableEq, Repr

/-- The place of an issue, seen from one level further out. -/
def Issue.under (segment : Segment) (issue : Issue) : Issue :=
  { issue with location := segment :: issue.location }

/-- A step as JSON: a name or a number. -/
def Segment.dump : Segment → Json
  | .key name => .string name
  | .index position => .int position

/-- An issue as JSON. -/
def Issue.dump (issue : Issue) : Json :=
  .object
    [ ("type", .string issue.complaint.code),
      ("loc", .array (issue.location.map Segment.dump)),
      ("msg", .string issue.complaint.message) ]

/-- The part of a value that a step leads to. -/
def Segment.part? : Segment → Json → Option Json
  | .key name, value => value.field? name
  | .index position, .array items => items[position]?
  | .index _, _ => none

/-- The value at a place.  If there is none, it is the last one on the way there. -/
def Json.nearest : List Segment → Json → Json
  | [], value => value
  | segment :: rest, value =>
      match segment.part? value with
      | some part => part.nearest rest
      | none => value

end ServerResources
