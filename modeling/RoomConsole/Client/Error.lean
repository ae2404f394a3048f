import RoomConsole.Http.Status
import RoomConsole.Url.Host

/-!
# Errors of the room server client

A `TransportFault` is a request that went wrong below HTTP's answer, or an
answer whose status was refused: it says what failed (building the request,
sending it, its body, decoding, or a status), the URL when it had one, and
whether it timed out or never connected. Its text names the failure and then
`for url (U)`.

A client `Error` is one of: a transport fault, an unreadable URL, a TLS
failure, a 404 answer, another refused answer, a body that does not decode,
or a broken event stream. Each says whether it is the server's "not found",
whether retrying could help (a timeout or a failed connection, a 5xx answer,
a broken stream), and which status the server gave, when it gave one.
-/

namespace RoomConsole.Client

open RoomConsole.Http

/-- What part of a request failed. -/
inductive FaultKind where
  /-- The request could not be built. -/
  | builder
  /-- The request could not be sent. -/
  | request
  /-- The body could not be sent or read. -/
  | body
  /-- The body could not be decoded. -/
  | decode
  /-- The answer's status was an error. -/
  | status (s : Status)
  deriving DecidableEq

/-- A request that failed below the answer, or an error status. -/
structure TransportFault where
  kind : FaultKind
  url : Option String := none
  timedOut : Bool := false
  connectFailed : Bool := false
  deriving DecidableEq

/-- The text of a transport fault. -/
def TransportFault.text (f : TransportFault) : String :=
  let head := match f.kind with
    | .builder => "builder error"
    | .request => "error sending request"
    | .body => "request or response body error"
    | .decode => "error decoding response body"
    | .status s =>
      (if s.isClientError then "HTTP status client error (" else "HTTP status server error (") ++ s.text ++ ")"
  head ++ match f.url with
    | some u => " for url (" ++ u ++ ")"
    | none => ""

/-- The status of a fault made from an answer. -/
def TransportFault.status? (f : TransportFault) : Option Nat :=
  match f.kind with
  | .status s => some s.code
  | _ => none

/-- A failure of a call to the room server. -/
inductive Error where
  | transport (f : TransportFault)
  | invalidUrl (e : Url.ParseError)
  | tls (message : String)
  /-- The server answered 404. -/
  | notFound (message : String)
  /-- The server refused with another status; its text is kept. -/
  | api (status : Nat) (message : String)
  /-- A body that does not decode, kept for inspection. -/
  | deserialization (message body : String)
  | eventStream (message : String)
  deriving DecidableEq

/-- The name of an error's kind. -/
def Error.kind : Error → String
  | .transport _ => "Transport"
  | .invalidUrl _ => "InvalidUrl"
  | .tls _ => "Tls"
  | .notFound _ => "NotFound"
  | .api _ _ => "Api"
  | .deserialization _ _ => "Deserialization"
  | .eventStream _ => "EventStream"

/-- The text of an error. -/
def Error.message : Error → String
  | .transport f => "HTTP transport error: " ++ f.text
  | .invalidUrl e => "Invalid URL: " ++ e.message
  | .tls m => "TLS error: " ++ m
  | .notFound m => "Not found: " ++ m
  | .api s m => "API error (HTTP " ++ toString s ++ "): " ++ m
  | .deserialization m _ => "Deserialization error: " ++ m
  | .eventStream m => "Event stream error: " ++ m

/-- Whether the server said the thing does not exist. -/
def Error.isNotFound : Error → Bool
  | .notFound _ => true
  | .transport f => f.status? == some 404
  | _ => false

/-- Whether retrying could help. -/
def Error.isTransient : Error → Bool
  | .transport f => f.timedOut || f.connectFailed
  | .api s _ => s ≥ 500
  | .eventStream _ => true
  | _ => false

/-- The status the server gave, when it gave one. -/
def Error.status : Error → Option Nat
  | .notFound _ => some 404
  | .api s _ => some s
  | .transport f => f.status?
  | _ => none

/-- The fault an answer's error status makes: none for a code below 400 or
from 600 on. The answer has no URL, so the fault names the placeholder one. -/
def refusal? (s : Status) : Option TransportFault :=
  if s.isClientError || s.isServerError then
    some { kind := .status s, url := some "http://no.url.provided.local/" }
  else none

end RoomConsole.Client
