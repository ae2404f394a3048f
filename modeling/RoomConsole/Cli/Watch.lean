import RoomConsole.Cli.Options
import RoomConsole.Feed.Task

/-!
# Following the event stream

`roomctl watch` prints the server's events as the feed folds them. Four
kinds of task run at once. The feed task reads the subscription: it folds
each event into the store and sends it on the feed's broadcast channel,
skips a payload that does not decode, and at the end of the stream, or
when the stream breaks, sends the feed's final state and drops the state's
sender. With hydration on (`--hydrate`, or the profile's setting), a
`created` event for a room the store did not know spawns a fetch of that
room, which writes the store when the server answers. The relay task
forwards every event from the feed's channel to the console's channel. The
command's own task subscribes the relay while connecting, then reads the
feed state, subscribes to the console's channel, prints the room table and
`Watching …`, and loops: it looks at the feed state first and at the next
event second, stops when the feed is closed or failed, and otherwise prints
the event: as JSON, as a line, or as the whole room table, reading the
store as it is at that moment.

Each step here is one task doing one thing with a channel or the store, so
a schedule (which task moves next) is any interleaving of them. The user's
Ctrl-C and log lines are left out.
-/

namespace RoomConsole.Cli.Watch

open RoomConsole.Event

/-- The channel of the feed's state as a receiver sees it: the state last
sent, how many states were sent, and whether the feed task still holds the
sender. -/
structure StateChannel where
  value : FeedState
  version : Nat
  senderAlive : Bool

/-- The state channel of a feed task: `Live`, sent once as the feed
started; then the final state, sent as the task ended and dropped the
sender. -/
def stateOf (t : FeedTask) : StateChannel :=
  match t.final with
  | none => { value := .live, version := 1, senderAlive := true }
  | some st => { value := st, version := 2, senderAlive := false }

/-- What the command prints, in order. -/
inductive Shown where
  /-- The room table, in the chosen output format. -/
  | table (rooms : List Room.Entry)
  /-- An event as JSON. -/
  | json (e : ServerEvent)
  /-- A room event's line, naming the room the store holds under its id. -/
  | roomLine (change : RoomChange) (room : Option Room.Entry)
  /-- A pull event's line. -/
  | pullLine (status : Pull.Status)
  /-- `Watching <url> (Ctrl-C to stop)`, on the error stream. -/
  | watching (url : String)
  /-- `Event stream closed by server`, on the error stream. -/
  | closedByServer

/-- How the command was asked to print and follow: the global options,
`--table`, whether created rooms are fetched, and the address of the
console. -/
structure Setup where
  globals : Globals
  table : Bool := false
  hydrate : Bool := false
  url : String

namespace Setup

variable (o : Setup)

/-- JSON output was asked for. -/
def structured : Bool :=
  match o.globals.output with
  | .json | .jsonCompact => true
  | _ => false

/-- What the command prints before its loop: the room table, unless JSON
without `--table` was asked for, then `Watching …`; nothing when quiet. -/
def greeting (s : Store) : List Shown :=
  if o.globals.quiet then []
  else (if o.table || !o.structured then [.table s.roomsSnapshot] else []) ++ [.watching o.url]

/-- What printing an event shows: the whole room table with `--table`, else
the event as JSON, else a line for a room or pull event and nothing for an
event of another kind; nothing when quiet. -/
def render (s : Store) (e : ServerEvent) : List Shown :=
  if o.globals.quiet then []
  else if o.table then [.table s.roomsSnapshot]
  else if o.structured then [.json e]
  else match e with
    | .rooms c => [.roomLine c (s.room c.id)]
    | .pull st => [.pullLine st]
    | .unknown _ _ => []

end Setup

/-- Where the command's own task is. -/
inductive Stage where
  /-- Connecting: the relay does not listen yet. -/
  | connecting
  /-- Connected: the feed state is to be read. -/
  | connected
  /-- The feed state was read; the console's channel is to be subscribed. -/
  | stateRead
  | looping
  /-- Returned, or failed with the feed's message. -/
  | stopped (failure : Option String)
  deriving DecidableEq, Repr

/-- The tasks of a watch, and what they share. -/
structure Tasks where
  /-- The feed task, the hydrations it spawned and the store they write. -/
  feed : FeedRun
  /-- The relay's receiver on the feed's channel, once it listens. -/
  relay : Option (Inbox ServerEvent)
  stage : Stage
  /-- The version of the feed state the command saw last. -/
  seen : Nat
  /-- The command's receiver on the console's channel, once it listens. -/
  inbox : Option (Inbox ServerEvent)
  /-- The events the command received and printed, in order. -/
  handled : List ServerEvent
  shown : List Shown

/-- Who moves next. -/
inductive Task where
  | feed
  /-- The hydration at this position among those in flight. -/
  | hydration (i : Nat)
  | relay
  | command
  deriving DecidableEq, Repr

namespace Tasks

/-- The tasks just after the feed went live: the store as connecting loaded
it, the subscription's items unread, nobody listening yet. -/
def start (s : Store) (items : List (Except Client.Error ServerEvent)) : Tasks :=
  { feed := { task := { items }, store := s }, relay := none, stage := .connecting, seen := 0,
    inbox := none, handled := [], shown := [] }

variable (o : Setup) (w : Tasks)

/-- The feed state channel. -/
def state : StateChannel := stateOf w.feed.task

/-- The feed task takes a step; an event it sends reaches the relay if it
listens. -/
def feedStep : Option Tasks :=
  match w.feed.feedStep o.hydrate with
  | none => none
  | some (r, sent) =>
    some { w with feed := r, relay := match sent with
                                     | some e => w.relay.map (·.push e)
                                     | none => w.relay }

/-- A hydration gets its answer. -/
def hydrationStep (net : Http.Network) (c : Client) (i : Nat) : Option Tasks :=
  (w.feed.hydrationStep net c i).map fun r => { w with feed := r }

/-- The relay receives one message and forwards an event to the command if
it listens. -/
def relayStep : Option Tasks :=
  match w.relay with
  | none => none
  | some b =>
    match b.take with
    | none => none
    | some (.lagged _, b') => some { w with relay := some b' }
    | some (.message e, b') => some { w with relay := some b', inbox := w.inbox.map (·.push e) }

/-- The command takes one step: connecting subscribes the relay; then it
reads the feed state and stops if the feed failed; then it subscribes to
the console's channel and greets. In its loop a new feed state comes first:
closed prints the notice and stops, failed stops with the feed's message. A
feed state sender that is gone stops it quietly. Only then is the next event
received and printed. -/
def commandStep : Option Tasks :=
  match w.stage with
  | .connecting => some { w with relay := some {}, stage := .connected }
  | .connected =>
    match w.state.value with
    | .failed m => some { w with stage := .stopped (some m) }
    | _ => some { w with seen := w.state.version, stage := .stateRead }
  | .stateRead => some { w with inbox := some {}, stage := .looping, shown := w.shown ++ o.greeting w.feed.store }
  | .looping =>
    if w.seen ≠ w.state.version then
      match w.state.value with
      | .failed m => some { w with seen := w.state.version, stage := .stopped (some m) }
      | .closed =>
        some { w with seen := w.state.version, stage := .stopped none,
                      shown := w.shown ++ (if o.globals.quiet then [] else [.closedByServer]) }
      | _ => some { w with seen := w.state.version }
    else if !w.state.senderAlive then some { w with stage := .stopped none }
    else
      match w.inbox with
      | none => none
      | some b =>
        match b.take with
        | none => none
        | some (.lagged _, b') => some { w with inbox := some b' }
        | some (.message e, b') =>
          some { w with inbox := some b', handled := w.handled ++ [e],
                        shown := w.shown ++ o.render w.feed.store e }
  | .stopped _ => none

/-- One step of one task; `none` when that task cannot move. Hydrations
fetch from the server over `net` with the console's client `c`. -/
def step (net : Http.Network) (c : Client) : Task → Option Tasks
  | .feed => w.feedStep o
  | .hydration i => w.hydrationStep net c i
  | .relay => w.relayStep
  | .command => w.commandStep o

/-- Let the tasks move in the order a schedule gives; `none` when a task
is scheduled that cannot move. -/
def run (net : Http.Network) (c : Client) : Tasks → List Task → Option Tasks
  | w, [] => some w
  | w, t :: ts => (w.step o net c t).bind fun w' => run net c w' ts

end Tasks

end RoomConsole.Cli.Watch
