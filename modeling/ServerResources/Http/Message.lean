import ServerResources.Fault
import ServerResources.Registrar
import ServerResources.Schema.Decoder

/-!
# Requests and responses

A request is given with its path and its query decoded.  A response carries, next
to what is meant for the client, the issues that it explains, the warnings that the
request caused and the fault that nobody handled, if there was one.
-/

namespace ServerResources.Http

/-- What a client wants done. -/
inductive Method where
  | get
  | post
  | delete
  | other (name : String)
  deriving DecidableEq, Repr

/-- The method of a name, which is in capitals. -/
def Method.ofName : String → Method
  | "GET" => .get
  | "POST" => .post
  | "DELETE" => .delete
  | name => .other name

/-- A request. -/
structure Request where
  method : Method
  path : String
  query : List (String × String) := []
  /-- The body, if there is one; a body of null is one. -/
  body : Option Json := none

/-- A response. -/
structure Response where
  status : Nat
  body : Json
  location : Option String := none
  issues : List Issue := []
  warnings : List Warning := []
  unhandled : Option Fault := none

/-! ## Reading requests -/

/-- The value of a query parameter; of several the last counts. -/
def Request.parameter? (request : Request) (name : String) : Option String :=
  OrderedMap.find name request.query.reverse

/-- The value of a query parameter that must be there. -/
def Request.parameter (request : Request) (name : String) : Validated String :=
  match request.parameter? name with
  | some value => .valid value
  | none => ((Validated.complain .missing).under (.key name)).under (.key "query")

/-- The document in the body. -/
def Request.document {α : Type} (request : Request) (decode : Origin → Decoder α) :
    Validated α :=
  match request.body with
  | some body => (decode .requestBody body).under (.key "body")
  | none => (Validated.complain .missing).under (.key "body")

/-! ## Writing responses -/

namespace Response

/-- A good answer. -/
def ok (body : Json) : Response :=
  { status := 200, body := body }

/-- A refusal with an explanation. -/
def refuse (status : Nat) (detail : Json) : Response :=
  { status := status, body := .object [("detail", detail)] }

/-- The answer to a request for something that is not there. -/
def notFound (what : String) : Response :=
  refuse 404 (.string what)

/-- The answer to a request with issues. -/
def invalid (issues : List Issue) : Response :=
  { refuse 422 (.array (issues.map Issue.dump)) with issues := issues }

/-- The answer to a request that ran into a fault that nobody handles. -/
def failure (fault : Fault) : Response :=
  { status := 500, body := .string "Internal Server Error", unhandled := some fault }

/-- The answer that sends the client to another address. -/
def redirect (location : String) : Response :=
  { status := 307, body := .null, location := some location }

end Response

end ServerResources.Http
