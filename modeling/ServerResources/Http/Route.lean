import ServerResources.Http.Message
import ServerResources.Text.Percent

/-!
# Routes

Which resource of the service a path names.  A name that stands in a path is one
segment of it: it is not empty and has no slash.  One line feed after a path
that ends in a fixed word is not part of it.

A path that names nothing, but does so without the slashes at its end, is an
address that has moved.
-/

namespace ServerResources.Http

/-- What can be asked about the administered objects of a connector. -/
inductive Question where
  | interfaces
  | classes
  | existence
  | properties
  | confidential
  deriving DecidableEq, Repr

/-- A resource of the service. -/
inductive Route where
  | connectors
  | connector (name : String)
  | adminObjects (connector : String) (question : Question)
  | applications
  | application (name : String)
  | mailSessions (application : String)
  | bindings
  | state
  deriving DecidableEq, Repr

/-- The parts of a path between slashes. -/
def segments : List Char → List (List Char)
  | [] => [[]]
  | character :: rest =>
      match segments rest with
      | [] => [[character]]
      | head :: tail =>
          if character = '/' then [] :: head :: tail else (character :: head) :: tail

/-- A fixed word at the end of a path, without a line feed after it. -/
def lastWord (segment : String) : String :=
  match segment.toList.reverse with
  | '\n' :: rest => String.ofList rest.reverse
  | _ => segment

/-- The questions by their words. -/
def Question.ofWord? : String → Option Question
  | "interfaces" => some .interfaces
  | "classes" => some .classes
  | "exists" => some .existence
  | "properties" => some .properties
  | "confidential" => some .confidential
  | _ => none

/-- The resource that a path of one segment names. -/
def Route.ofWord? : String → Option Route
  | "connectors" => some .connectors
  | "applications" => some .applications
  | "state" => some .state
  | _ => none

/-- The resource that the segments of a path name. -/
def Route.ofSegments? : List String → Option Route
  | ["", word] => Route.ofWord? (lastWord word)
  | ["", collection, name] =>
      if collection = "naming" then
        if lastWord name = "bindings" then some .bindings else none
      else if name = "" then none
      else if collection = "connectors" then some (.connector name)
      else if collection = "applications" then some (.application name)
      else none
  | ["", collection, name, word] =>
      if collection = "applications" ∧ name ≠ "" ∧ lastWord word = "mail-sessions" then
        some (.mailSessions name)
      else none
  | ["", collection, name, part, word] =>
      if collection = "connectors" ∧ name ≠ "" ∧ part = "admin-objects" then
        (Question.ofWord? (lastWord word)).map (.adminObjects name)
      else none
  | _ => none

/-- The resource that a path names. -/
def Route.ofPath? (path : String) : Option Route :=
  Route.ofSegments? ((segments path.toList).map String.ofList)

/-- A path without the slashes at its end. -/
def withoutFinalSlashes (path : String) : String :=
  String.ofList ((path.toList.reverse.dropWhile (· = '/')).reverse)

/-- Where a path that names nothing has moved to. -/
def movedPath? (path : String) : Option String :=
  let shorter := withoutFinalSlashes path
  if path.toList.getLast? = some '/' ∧ path ≠ "/" ∧ (Route.ofPath? shorter).isSome then
    some shorter
  else none

/-- The host that addresses are given with. -/
def host : String := "http://testserver"

/-- The address of a path with a query. -/
def address (path : String) (query : List (String × String)) : String :=
  host ++ Text.encodePath path
    ++ (if query.isEmpty then "" else "?" ++ Text.encodeQuery query)

end ServerResources.Http
