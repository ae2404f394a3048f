import RoomConsole.Console
import RoomConsole.Feed.Task

/-!
# Connect and disconnect, interleaved

Clones of a console share its state: the connection, the store, the slot
that holds the feed, and the slot that holds the cancellation token of the
feed's task and relay. `connect` and `disconnect` can run at once on
different clones, and between their await points another call, a feed
task, a relay or a hydration may move.

`disconnect` stops the feed, then marks the console disconnected. Stopping
the feed cancels the token in the token slot, then locks the feed slot and
takes its feed; when there was one, it shuts it down: it cancels that
feed's token and waits, the slot still locked, until the feed's task has
ended.

`connect` stops the feed the same way, marks the console connecting and
loads the capabilities and the room list. With events on, it makes a new
token and puts it in the token slot, subscribes to the event stream, spawns
the feed task and the relay with that token, and locks the feed slot to
put the feed in it. Whatever feed the slot held is dropped then, and
nothing cancels it. The console is then marked connected; a failed load or
subscription marks it failed and the call returns the error.

Each step here runs one call from one await point to the next, or one step
of a spawned task. A relay forwards the events its feed sends to the
console's own broadcast channel, receiving them as any broadcast receiver
does; it stops as soon as its token is cancelled, before receiving again.
A cancelled token stays cancelled. Log lines are left out, and the two
requests of the load answer together.
-/

namespace RoomConsole.Console

open RoomConsole.Event

/-- Which call. -/
inductive Kind where
  | connect
  | disconnect
  deriving DecidableEq, Repr

/-- Where a call is: at one of its await points, or returned. -/
inductive Stage where
  /-- Called, not started: it cancels the token in the token slot. -/
  | begin
  /-- To lock the feed slot and take its feed. -/
  | take
  /-- Holding the feed slot's lock until the task of feed `j` has ended. -/
  | wait (j : Nat)
  /-- Loading the capabilities and the room list. -/
  | load
  /-- To put a new token in the token slot. -/
  | arm
  /-- Subscribing to the event stream, for a feed with token `t`. -/
  | subscribe (t : Nat)
  /-- To lock the feed slot and put feed `j` in it. -/
  | hold (j : Nat)
  | returned
  deriving DecidableEq, Repr

/-- A call on one of the clones, and where it is. -/
structure Call where
  kind : Kind
  stage : Stage := .begin
  deriving DecidableEq, Repr

/-- A call that is not under way: not started yet, or returned. -/
def Call.idle (c : Call) : Bool := c.stage == .begin || c.stage == .returned

/-- A feed a connect spawned: the token its task and relay share, the task,
the events the task folded, and what the relay's receiver holds. -/
structure Spawned where
  token : Nat
  task : FeedTask
  folded : List ServerEvent := []
  relay : Inbox ServerEvent := {}

/-- What the clones of a console share, and the tasks they spawned. Tokens
are numbered as they are made; the console starts with token 0 in the
token slot. -/
structure Shared where
  config : ConsoleConfig
  client : Client
  store : Store
  connection : Connection := .disconnected
  /-- The token in the token slot. -/
  token : Nat := 0
  /-- The number the next token gets. -/
  fresh : Nat := 1
  /-- The tokens cancelled. -/
  cancelled : List Nat := []
  /-- The feed slot: the feed it holds, by its place among those spawned. -/
  slot : Option Nat := none
  /-- A call holds the feed slot's lock while it waits for a feed to end. -/
  locked : Bool := false
  feeds : List Spawned := []
  /-- Rooms whose fetch a feed spawned and that are still in flight. -/
  fetches : List String := []
  /-- The events sent on the console's broadcast channel, in order. -/
  broadcast : List ServerEvent := []
  calls : List Call
  /-- The calls that returned, in the order they returned, with what they
  returned. -/
  returns : List (Kind × Except Error Unit) := []

/-- Who moves next. -/
inductive Actor where
  | call (i : Nat)
  | feed (j : Nat)
  | relay (j : Nat)
  /-- The fetch at this position among those in flight. -/
  | hydration (k : Nat)
  deriving DecidableEq, Repr

namespace Shared

/-- A console just made over a store, with these calls made on its clones,
none started yet. -/
def start (cfg : ConsoleConfig) (c : Client) (s : Store) (kinds : List Kind) : Shared :=
  { config := cfg, client := c, store := s, calls := kinds.map fun k => { kind := k } }

variable (w : Shared)

/-- Cancel a token. -/
def cancel (t : Nat) : Shared := { w with cancelled := t :: w.cancelled }

/-- Call `i`, which was `c`, reaches `st`. -/
def advance (i : Nat) (c : Call) (st : Stage) : Shared := { w with calls := w.calls.set i { c with stage := st } }

/-- Call `i`, which was `c`, returns `r`, leaving the connection `conn`. -/
def finish (i : Nat) (c : Call) (r : Except Error Unit) (conn : Connection) : Shared :=
  { w with calls := w.calls.set i { c with stage := .returned }, connection := conn,
           returns := w.returns ++ [(c.kind, r)] }

/-- The feed is stopped: `disconnect` marks the console disconnected and
returns, `connect` marks it connecting and goes on to load. -/
def stopped (i : Nat) (c : Call) : Shared :=
  match c.kind with
  | .connect => { w with connection := .connecting }.advance i c .load
  | .disconnect => w.finish i c (.ok ()) .disconnected

/-- The task of feed `j` has ended. -/
def ended (j : Nat) : Bool :=
  match w.feeds[j]? with
  | some f => f.task.final.isSome
  | none => true

/-- Shutting feed `j` down cancels its token. -/
def shutDown (j : Nat) : Shared :=
  match w.feeds[j]? with
  | some f => w.cancel f.token
  | none => w

/-- Call `i` runs to its next await point; none when it returned or waits
for a lock or a task. `streamsOpen` says whether the server keeps an event
stream open after what it sent. -/
def callStep (net : Http.Network) (streamsOpen : Bool) (i : Nat) : Option Shared :=
  match w.calls[i]? with
  | none => none
  | some c =>
    match c.stage with
    | .begin => some ((w.cancel w.token).advance i c .take)
    | .take =>
      if w.locked then none
      else
        match w.slot with
        | none => some (w.stopped i c)
        | some j => some (({ w with slot := none, locked := true }.shutDown j).advance i c (.wait j))
    | .wait j => if w.ended j then some ({ w with locked := false }.stopped i c) else none
    | .load =>
      match load net w.client w.store with
      | (.error e, s) => some ({ w with store := s }.finish i c (.error e) .failed)
      | (.ok (), s) =>
        if w.config.eventsEnabled then some ({ w with store := s }.advance i c .arm)
        else some ({ w with store := s }.finish i c (.ok ()) .connected)
    | .arm => some ({ w with token := w.fresh, fresh := w.fresh + 1 }.advance i c (.subscribe w.fresh))
    | .subscribe t =>
      match w.client.subscribeEvents net with
      | .error e => some (w.finish i c (.error e.toConsole) .failed)
      | .ok items =>
        some ({ w with feeds := w.feeds ++ [({ token := t, task := { items, ends := !streamsOpen } } : Spawned)] }.advance i c
          (.hold w.feeds.length))
    | .hold j => if w.locked then none else some ({ w with slot := some j }.finish i c (.ok ()) .connected)
    | .returned => none

/-- The task of feed `j` takes a step: it folds an event into the store,
spawns a fetch of a created room it did not know when hydration is on, and
sends the event to its relay. -/
def feedStep (j : Nat) : Option Shared :=
  match w.feeds[j]? with
  | none => none
  | some f =>
    match f.task.next (w.cancelled.contains f.token) with
    | none => none
    | some (.event e, t) =>
      let (s, spawned) := FeedTask.handle w.config.hydrateCreated w.store e
      some { w with store := s, fetches := w.fetches ++ spawned.toList,
                    feeds := w.feeds.set j { f with task := t, folded := f.folded ++ [e], relay := f.relay.push e } }
    | some (_, t) => some { w with feeds := w.feeds.set j { f with task := t } }

/-- The relay of feed `j` receives one message and forwards an event to the
console's channel; it has stopped once its token is cancelled. -/
def relayStep (j : Nat) : Option Shared :=
  match w.feeds[j]? with
  | none => none
  | some f =>
    if w.cancelled.contains f.token then none
    else
      match f.relay.take with
      | none => none
      | some (.lagged _, b) => some { w with feeds := w.feeds.set j { f with relay := b } }
      | some (.message e, b) =>
        some { w with feeds := w.feeds.set j { f with relay := b }, broadcast := w.broadcast ++ [e] }

/-- The fetch at position `k` among those in flight gets its answer. -/
def hydrationStep (net : Http.Network) (k : Nat) : Option Shared :=
  match w.fetches[k]? with
  | none => none
  | some id => some { w with store := FeedTask.hydrated net w.client w.store id, fetches := w.fetches.eraseIdx k }

/-- One step of one actor; none when it cannot move. -/
def step (net : Http.Network) (streamsOpen : Bool) : Actor → Option Shared
  | .call i => w.callStep net streamsOpen i
  | .feed j => w.feedStep j
  | .relay j => w.relayStep j
  | .hydration k => w.hydrationStep net k

/-- Let the actors move in the order a schedule gives; none when one
scheduled cannot move. -/
def run (net : Http.Network) (streamsOpen : Bool) : Shared → List Actor → Option Shared
  | w, [] => some w
  | w, a :: as => (w.step net streamsOpen a).bind fun w' => run net streamsOpen w' as

end Shared

end RoomConsole.Console
