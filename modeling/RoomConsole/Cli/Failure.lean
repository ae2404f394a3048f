import RoomConsole.Report
import RoomConsole.Error
import RoomConsole.Config.Basic

/-!
# Failures of the command line

What the command-line program reports when a command fails, with the exit
code it ends with:

| code | meaning |
|---|---|
| 1 | any other failure |
| 2 | a bad value, or a confirmation a script cannot give |
| 3 | authentication, or no password |
| 4 | a missing room |
| 7 | the server or its event stream could not be reached |
| 8 | a timeout |

Each failure is reported as a `Diagnostic`: a code such as
`roomctl::connection_failed`, a message, and help on what to do next.
Errors of the console and of the configuration are read into failures the
user can act on.
-/

namespace RoomConsole.Cli

open RoomConsole.Config (ConfigError)

/-- A failure of the command-line program. -/
inductive Failure where
  | connectionFailed (url reason : String)
  | eventStream (reason : String)
  | authFailed (profile : String)
  | noCredentials (profile : String)
  | notFound (resourceType identifier listCommand : String)
  | apiError (status : Nat) (message : String)
  | badResponse (message : String)
  | validation (field reason : String)
  | profileNotFound (name available : String)
  | noConfig (path : String)
  /-- A configuration failure other than a bad value or a missing password. -/
  | config (e : ConfigError)
  | needsConfirmation (action : String)
  | timeout
  | io (message : String)
  | json (message : String)
  | internal (message : String)
  deriving DecidableEq, Repr

namespace Failure

/-- The exit code of a failure. -/
def exitCode : Failure → Nat
  | .connectionFailed _ _ | .eventStream _ => 7
  | .authFailed _ | .noCredentials _ => 3
  | .notFound _ _ _ => 4
  | .timeout => 8
  | .validation _ _ | .needsConfirmation _ => 2
  | _ => 1

/-- The cause a configuration error carries: the text of the system or
serializer error inside it. -/
def configCauses : ConfigError → List String
  | .io m => [m]
  | .serialization m => [m]
  | _ => []

/-- The report of a failure. -/
def diagnostic : Failure → Diagnostic
  | .connectionFailed url _ =>
    { code := some "roomctl::connection_failed",
      message := "Could not connect to room server at " ++ url,
      help := some ("Check that the room server is running and reachable.\nURL: " ++ url ++
        "\nTry: roomctl rooms list --insecure") }
  | .eventStream reason =>
    { code := some "roomctl::event_stream", message := "Event stream unavailable: " ++ reason,
      help := some "The server may have events disabled, or a proxy may be buffering the stream." }
  | .authFailed profile =>
    { code := some "roomctl::auth_failed", message := "Authentication failed",
      help := some ("Verify the username and password for profile '" ++ profile ++
        "'.\nRun: roomctl config set-password --profile " ++ profile) }
  | .noCredentials profile =>
    { code := some "roomctl::no_credentials",
      message := "No password configured for profile '" ++ profile ++ "'",
      help := some "Store one with: roomctl config set-password\nOr set the ROOMCTL_PASSWORD environment variable." }
  | .notFound kind ident list =>
    { code := some "roomctl::not_found", message := kind ++ " '" ++ ident ++ "' not found",
      help := some ("Run: roomctl " ++ list ++ " to see available " ++ kind ++ "s") }
  | .apiError status message =>
    { code := some "roomctl::api_error",
      message := "Server error (" ++ toString status ++ "): " ++ message }
  | .badResponse message =>
    { code := some "roomctl::bad_response", message := "Unexpected server response: " ++ message,
      help := some "The server may be running an incompatible version." }
  | .validation field reason =>
    { code := some "roomctl::validation", message := "Invalid value for " ++ field ++ ": " ++ reason }
  | .profileNotFound name available =>
    { code := some "roomctl::profile_not_found",
      message := "Profile '" ++ name ++ "' not found in configuration",
      help := some ("Available profiles: " ++ available ++ "\nCreate one with: roomctl config init") }
  | .noConfig path =>
    { code := some "roomctl::no_config", message := "No room server configured",
      help := some ("Create a profile with: roomctl config init\nOr pass --url / set ROOMCTL_URL.\nExpected config at: " ++ path) }
  | .config e =>
    { code := some "roomctl::config", message := e.message, causes := configCauses e }
  | .needsConfirmation action =>
    { code := some "roomctl::confirmation_required",
      message := "Destructive operation '" ++ action ++ "' requires confirmation",
      help := some "Use --yes (-y) to skip confirmation in non-interactive contexts." }
  | .timeout =>
    { code := some "roomctl::timeout", message := "Request timed out",
      help := some "Increase timeout with --timeout or check server responsiveness." }
  | .io message => { message }
  | .json message =>
    { code := some "roomctl::json", message := "Invalid JSON payload: " ++ message, causes := [message],
      help := some "Check the JSON file contents and try again." }
  | .internal message => { message := "Internal error: " ++ message }

/-- A console error as the user reads it. -/
def ofConsole : RoomConsole.Error → Failure
  | .connectionFailed url reason => .connectionFailed url reason
  | .notConnected => .connectionFailed "(disconnected)" "console is not connected"
  | .timeout => .timeout
  | .roomNotFound m => .notFound "room" m "rooms list"
  | .api 401 _ | .api 403 _ => .authFailed "current"
  | .api status message => .apiError status message
  | .subscription reason => .eventStream reason
  | .deserialization message => .badResponse message
  | .config message => .validation "config" message
  | .internal message => .internal message

/-- A configuration error as the user reads it: a bad value and a missing
password keep their own reports. -/
def ofConfig : ConfigError → Failure
  | .noCredentials profile => .noCredentials profile
  | .validation field reason => .validation field reason
  | e => .config e

end Failure

end RoomConsole.Cli
