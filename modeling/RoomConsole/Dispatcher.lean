import RoomConsole.Client.Api
import RoomConsole.Store.Basic
import RoomConsole.Error

/-!
# Commands and their dispatch

Every operation on the server is a `Command`. Running one makes exactly one
call to the server and then at most one change to the store, with the value
the server confirmed: nothing changes before the call succeeds, and a
failed call leaves the store as it was.

What each success does to the store: the capabilities and the pull status
are replaced; a listing replaces the room list; a created room goes to the
front and a fetched one to the back, or replaces the known entry in place;
starting, stopping and pausing patch the room's flags and status, placing
an unknown room at the front; a removed room leaves; a recreated room
replaces the old id at the front. Restarting, settings, statistics,
stopping a pull and exporting leave the store alone.
-/

namespace RoomConsole

open RoomConsole.Room RoomConsole.Client

/-- An operation on the room server. -/
inductive Command where
  | refreshConfig
  | listRooms (labels : List (String × String))
  | createRoom (settings : Settings) (start : Bool)
  | getRoom (id : String)
  | getRoomByName (name : String)
  | removeRoom (id : String)
  | startRoom (id : String)
  | stopRoom (id : String)
  | pauseRoom (id : String)
  | restartRoom (id : String)
  /-- Recreate a room's container; absent settings and state are kept. -/
  | recreateRoom (id : String) (settings : Option Settings) (start : Option Bool)
  | roomSettings (id : String)
  | roomStats (id : String)
  | pullStart (request : Pull.Request)
  | pullStatus
  | pullStop
  | exportCompose

/-- What a command gives back. -/
inductive Outcome where
  | ok
  | config (c : Capabilities)
  | rooms (rooms : List Entry)
  | room (e : Entry)
  | settings (s : Settings)
  | stats (s : Stats)
  | pull (s : Pull.Status)
  | compose (text : String)

/-- The patch that marks a room with flags and a status. -/
def flagPatch (id : String) (running paused : Bool) (status : String) : Patch :=
  { id, running := some running, paused := some paused, status := some status }

/-- Run a command: its outcome or error, and the store after it. -/
def Command.run (net : Http.Network) (c : Client) (s : Store) (cmd : Command) :
    Except Error Outcome × Store :=
  let fail (e : Client.Error) : Except Error Outcome × Store := (.error e.toConsole, s)
  match cmd with
  | .refreshConfig =>
    match c.roomsConfig net with
    | .ok cfg => (.ok (.config cfg), s.setConfig cfg)
    | .error e => fail e
  | .listRooms labels =>
    match c.listRooms net labels with
    | .ok rooms => (.ok (.rooms rooms), s.replaceRooms rooms)
    | .error e => fail e
  | .createRoom settings start =>
    match c.createRoom net settings start with
    | .ok e => (.ok (.room e), (s.upsertRoom (.full e) .front).1)
    | .error e => fail e
  | .getRoom id =>
    match c.getRoom net id with
    | .ok e => (.ok (.room e), (s.upsertRoom (.full e) .back).1)
    | .error e => fail e
  | .getRoomByName name =>
    match c.getRoomByName net name with
    | .ok e => (.ok (.room e), (s.upsertRoom (.full e) .back).1)
    | .error e => fail e
  | .removeRoom id =>
    match c.removeRoom net id with
    | .ok () => (.ok .ok, (s.removeRoom id).1)
    | .error e => fail e
  | .startRoom id =>
    match c.roomAction net "start" id with
    | .ok () => (.ok .ok, (s.upsertRoom (.patch (flagPatch id true false "Up")) .front).1)
    | .error e => fail e
  | .stopRoom id =>
    match c.roomAction net "stop" id with
    | .ok () => (.ok .ok, (s.upsertRoom (.patch (flagPatch id false false "Exited")) .front).1)
    | .error e => fail e
  | .pauseRoom id =>
    match c.roomAction net "pause" id with
    | .ok () => (.ok .ok, (s.upsertRoom (.patch (flagPatch id false true "Paused")) .front).1)
    | .error e => fail e
  | .restartRoom id =>
    match c.roomAction net "restart" id with
    | .ok () => (.ok .ok, s)
    | .error e => fail e
  | .recreateRoom id settings start =>
    match c.recreateRoom net id settings start with
    | .ok e => (.ok (.room e), s.swapRoom id e .front)
    | .error e => fail e
  | .roomSettings id =>
    match c.roomSettings net id with
    | .ok v => (.ok (.settings v), s)
    | .error e => fail e
  | .roomStats id =>
    match c.roomStats net id with
    | .ok v => (.ok (.stats v), s)
    | .error e => fail e
  | .pullStart r =>
    match c.pullStart net r.start with
    | .ok st => (.ok (.pull st), s.setPull st)
    | .error e => fail e
  | .pullStatus =>
    match c.pullStatus net with
    | .ok st => (.ok (.pull st), s.setPull st)
    | .error e => fail e
  | .pullStop =>
    match c.pullStop net with
    | .ok () => (.ok .ok, s)
    | .error e => fail e
  | .exportCompose =>
    match c.exportCompose net with
    | .ok text => (.ok (.compose text), s)
    | .error e => fail e

end RoomConsole
