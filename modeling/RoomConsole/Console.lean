import RoomConsole.Feed

/-!
# The console

The console manages one connection to a room server. Connecting loads the
capabilities and the room list, then, when events are enabled, starts the
event feed; the connection fails when any of that fails, and the store
keeps whatever loaded. Commands run only while connected; otherwise they
fail as not connected. Disconnecting drops the feed and keeps the store.

A one-shot run makes a fresh console without events, connects, runs one
step and disconnects.
-/

namespace RoomConsole

open RoomConsole.Client

/-- How to reach a room server. -/
structure ConsoleConfig where
  url : Url
  credentials : Option Credentials := none
  tls : TlsMode := .system
  /-- Seconds a request may take. -/
  timeoutSecs : Nat := 30
  /-- Subscribe to the server's events on connecting. -/
  eventsEnabled : Bool := true
  /-- Fetch rooms the event stream announces but the store lacks. -/
  hydrateCreated : Bool := false

/-- The transport settings of a configuration. -/
def ConsoleConfig.transport (cfg : ConsoleConfig) : Transport :=
  { tls := cfg.tls, timeoutMs := cfg.timeoutSecs * 1000, credentials := cfg.credentials }

/-- The state of the connection. -/
inductive Connection where
  | disconnected
  | connecting
  | connected
  | failed
  deriving DecidableEq, Repr

/-- The name of a connection state. -/
def Connection.name : Connection → String
  | .disconnected => "disconnected"
  | .connecting => "connecting"
  | .connected => "connected"
  | .failed => "failed"

/-- A console: its settings, client and store, the connection and the feed it
holds, and the events relayed to its observers. -/
structure Console where
  config : ConsoleConfig
  client : Client
  store : Store := {}
  connection : Connection := .disconnected
  feed : Option FeedState := none
  relayed : List Event.ServerEvent := []

/-- A console for a configuration, not yet connected; the CA file is read
with `read`. -/
def Console.create (cfg : ConsoleConfig) (read : FileReader) : Except Error Console := do
  let client ← (Client.create cfg.url.text cfg.transport read).mapError Client.Error.toConsole
  pure { config := cfg, client }

namespace Console

variable (net : Http.Network)

/-- Load the capabilities and the room list into a store; the first failure
wins. -/
def load (c : Client) (s : Store) : Except Error Unit × Store :=
  let (r1, s1) := Command.run net c s .refreshConfig
  let (r2, s2) := Command.run net c s1 (.listRooms [])
  let r : Except Error Unit := match r1, r2 with
    | .error e, _ => .error e
    | _, .error e => .error e
    | _, _ => .ok ()
  (r, s2)

/-- Load the capabilities and the room list; the first failure wins. -/
def hydrate (k : Console) : Except Error Unit × Console :=
  let (r, s) := load net k.client k.store
  (r, { k with store := s })

/-- Connect: load, then start the feed when events are enabled. -/
def connect (k : Console) : Except Error Unit × Console :=
  let k := { k with feed := none, connection := .connecting }
  let failed (e : Error) (k : Console) : Except Error Unit × Console := (.error e, { k with connection := .failed })
  match hydrate net k with
  | (.error e, k) => failed e k
  | (.ok (), k) =>
    if !k.config.eventsEnabled then (.ok (), { k with connection := .connected })
    else
      match runFeed net k.client k.config.hydrateCreated k.store with
      | .error e => failed e k
      | .ok (s, events, state) =>
        (.ok (), { k with store := s, feed := some state, relayed := k.relayed ++ events,
                          connection := .connected })

/-- Drop the feed and mark the console disconnected. -/
def disconnect (k : Console) : Console := { k with feed := none, connection := .disconnected }

/-- Run a command, when connected. -/
def execute (k : Console) (cmd : Command) : Except Error Outcome × Console :=
  if k.connection = .connected then
    let (r, s) := Command.run net k.client k.store cmd
    (r, { k with store := s })
  else (.error .notConnected, k)

/-- Connect a fresh console without events, run `step`, disconnect. -/
def oneshot {α : Type} (cfg : ConsoleConfig) (read : FileReader)
    (step : Console → Except Error α × Console) : Except Error α :=
  match Console.create { cfg with eventsEnabled := false } read with
  | .error e => .error e
  | .ok k =>
    match connect net k with
    | (.error e, _) => .error e
    | (.ok (), k) => (step k).1

/-- Take the relayed events not yet taken. -/
def drainEvents (k : Console) : List Event.ServerEvent × Console := (k.relayed, { k with relayed := [] })

end Console

end RoomConsole
