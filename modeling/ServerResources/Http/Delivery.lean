import ServerResources.Http.Message
import ServerResources.Json.Obstacle

/-!
# Deliveries

A response is written out after the request has been served.  Next to each issue of
a document the written response repeats the value that the issue is about.  A
response that cannot be written is not sent: the client receives an error instead,
and what was done for the request remains done.
-/

namespace ServerResources.Http

/-- What becomes of a response. -/
inductive Delivery where
  | sent (response : Response)
  | unsendable (response : Response) (obstacle : Json.Obstacle)

/-- The value in a request that an issue is about, or null if it is about a value that
is not there. -/
def Request.found (request : Request) (issue : Issue) : Json :=
  match issue.location, request.body with
  | .key "body" :: location, some body => body.nearest location
  | _, _ => .null

/-- All that is written for a client. -/
def Response.written (response : Response) (request : Request) : Json :=
  .array (response.body :: response.issues.map request.found)

/-- Writes out the response to a request. -/
def Response.deliver (response : Response) (request : Request) : Delivery :=
  match (response.written request).obstacle? with
  | none => .sent response
  | some obstacle => .unsendable response obstacle

namespace Delivery

/-- The response that was to be sent. -/
def response : Delivery → Response
  | .sent response => response
  | .unsendable response _ => response

/-- The status that the client receives. -/
def status : Delivery → Nat
  | .sent response => response.status
  | .unsendable _ _ => 500

end Delivery

end ServerResources.Http
