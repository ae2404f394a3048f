import RoomConsole.Client.Error

/-!
# Errors of the console

The console's errors say what a user can act on: the server could not be
reached, timed out or was never connected; the room does not exist; the
server refused with a status; the event stream failed; the server's answer
made no sense; the configuration is wrong; or something broke inside.

A client error becomes one of these keeping the server's status and text:
a timeout stays a timeout, an error status becomes a refusal with the
fault's text, any other transport fault is a failed connection to its URL
(or `<unknown>`), a 404 is a missing room and a broken stream a failed
subscription.
-/

namespace RoomConsole

/-- A failure the console reports. -/
inductive Error where
  | connectionFailed (url reason : String)
  | timeout
  | notConnected
  | roomNotFound (message : String)
  | api (status : Nat) (message : String)
  | subscription (reason : String)
  | deserialization (message : String)
  | config (message : String)
  | internal (message : String)
  deriving DecidableEq, Inhabited

namespace Error

/-- The name of an error's kind. -/
def kind : Error → String
  | .connectionFailed _ _ => "ConnectionFailed"
  | .timeout => "Timeout"
  | .notConnected => "NotConnected"
  | .roomNotFound _ => "RoomNotFound"
  | .api _ _ => "Api"
  | .subscription _ => "Subscription"
  | .deserialization _ => "Deserialization"
  | .config _ => "Config"
  | .internal _ => "Internal"

/-- The text of an error. -/
def message : Error → String
  | .connectionFailed url reason => "Cannot connect to room server at " ++ url ++ ": " ++ reason
  | .timeout => "Room server request timed out"
  | .notConnected => "Not connected to a room server"
  | .roomNotFound m => "Room not found: " ++ m
  | .api s m => "Server error (HTTP " ++ toString s ++ "): " ++ m
  | .subscription r => "Event subscription failed: " ++ r
  | .deserialization m => "Unexpected server response: " ++ m
  | .config m => "Configuration error: " ++ m
  | .internal m => "Internal error: " ++ m

/-- The status the server gave, when it gave one. -/
def status : Error → Option Nat
  | .roomNotFound _ => some 404
  | .api s _ => some s
  | _ => none

/-- A failure to reach the server, as opposed to the server's verdict. -/
def isConnectivity : Error → Bool
  | .connectionFailed _ _ | .timeout | .subscription _ => true
  | _ => false

end Error

/-- The console's reading of a client error. -/
def Client.Error.toConsole : Client.Error → RoomConsole.Error
  | .transport f =>
    if f.timedOut then .timeout
    else match f.status? with
      | some s => .api s f.text
      | none => .connectionFailed (f.url.getD "<unknown>") f.text
  | .invalidUrl e => .config ("Invalid URL: " ++ e.message)
  | .tls m => .connectionFailed "" ("TLS error: " ++ m)
  | .notFound m => .roomNotFound m
  | .api s m => .api s m
  | .deserialization m _ => .deserialization m
  | .eventStream r => .subscription r

end RoomConsole
