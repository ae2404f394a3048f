import RoomConsole.Http.Status
import RoomConsole.Url.Basic

/-!
# Requests, responses and the network

A `Request` is what the client sends: a method, a URL, the headers it sets
and an optional body. A `Response` is the status, the content type and the
body as it arrived in chunks, perhaps broken off before its end.

The `Network` carries a request to the server and brings back its
response, or says why none came: the server could not be reached, or it did
not answer in time. Everything above it is pure, so a session can be run
against any network, a scripted one or one that reaches nothing.
-/

namespace RoomConsole.Http

/-- An HTTP method. -/
inductive Method where
  | get
  | post
  | delete
  deriving DecidableEq, Repr

/-- The name of a method. -/
def Method.name : Method → String
  | .get => "GET"
  | .post => "POST"
  | .delete => "DELETE"

/-- A request as sent. -/
structure Request where
  method : Method
  url : Url
  /-- Headers by name, in the order they were set. -/
  headers : List (String × String) := []
  body : Option String := none

/-- A response as received. -/
structure Response where
  status : Status
  contentType : Option String := none
  /-- The body, in the chunks it arrived in. -/
  chunks : List (List UInt8) := []
  /-- The connection broke before the body was complete. -/
  broken : Bool := false

/-- Why a request got no response. -/
inductive Failure where
  /-- No connection could be made. -/
  | unreachable
  /-- No answer came in time. -/
  | timedOut
  deriving DecidableEq, Repr

/-- Carries requests to a server. -/
abbrev Network := Request → Except Failure Response

/-- The network that reaches nothing. -/
def Network.offline : Network := fun _ => .error .unreachable

end RoomConsole.Http
