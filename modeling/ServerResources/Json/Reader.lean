import ServerResources.Json.Lexeme

/-!
# Reading JSON

A reader is a machine that takes one lexeme at a time.  It holds a stack of
frames, one for each array or object that is still open, with what has been
read of it.  Of the fields of an object that share a name the last gives the
value and the first gives the place.
-/

namespace ServerResources.Json

/-- What has been read of an array or object that is still open. -/
inductive Frame where
  /-- The items before the one that is being read, in reverse. -/
  | item (before : List Json)
  /-- The fields before the one that is being read, and its name. -/
  | field (before : List (String × Json)) (name : String)

/-- What may come next. -/
inductive Reader where
  | awaitValue (frames : List Frame)
  | awaitItem (frames : List Frame)
  | complete (value : Json) (frames : List Frame)
  | awaitName (before : List (String × Json)) (frames : List Frame)
  | awaitField (frames : List Frame)
  | awaitColon (before : List (String × Json)) (name : String) (frames : List Frame)

namespace Reader

/-- Reads the first lexeme of a value. -/
def beginValue (frames : List Frame) : Lexeme → Option Reader
  | .scalar value => some (.complete value frames)
  | .text text => some (.complete (.string text) frames)
  | .openArray => some (.awaitItem frames)
  | .openObject => some (.awaitField frames)
  | _ => none

/-- Reads one lexeme. -/
def step : Reader → Lexeme → Option Reader
  | .awaitValue frames, lexeme => beginValue frames lexeme
  | .awaitItem frames, .closeArray => some (.complete (.array []) frames)
  | .awaitItem frames, lexeme => beginValue (.item [] :: frames) lexeme
  | .complete value (.item before :: frames), .comma =>
      some (.awaitValue (.item (value :: before) :: frames))
  | .complete value (.item before :: frames), .closeArray =>
      some (.complete (.array (value :: before).reverse) frames)
  | .complete value (.field before name :: frames), .comma =>
      some (.awaitName (OrderedMap.put name value before) frames)
  | .complete value (.field before name :: frames), .closeObject =>
      some (.complete (.object (OrderedMap.put name value before)) frames)
  | .awaitName before frames, .text name => some (.awaitColon before name frames)
  | .awaitField frames, .closeObject => some (.complete (.object []) frames)
  | .awaitField frames, .text name => some (.awaitColon [] name frames)
  | .awaitColon before name frames, .colon => some (.awaitValue (.field before name :: frames))
  | _, _ => none

end Reader

/-- The value that a text holds. -/
def ofText? (text : String) : Option Json := do
  let lexemes ← Lexeme.ofText? text
  match ← lexemes.foldlM Reader.step (.awaitValue []) with
  | .complete value [] => some value
  | _ => none

end ServerResources.Json
