import RoomConsole.Feed

/-!
# The feed task and the hydrations it spawns

Starting a feed spawns one task that reads the subscription. Each step of
that task does one thing. It looks at its cancellation token first, and
ends `Closed` once the token is cancelled; otherwise it reads the next
item. An event is folded into the store and sent on the feed's broadcast
channel, and when `created` brought a room the store did not know and
hydration is on, the task spawns a fetch of that room. An item that does
not decode is skipped; a broken stream ends the task `Failed`, and a stream
the server ends ends it `Closed`. While the server keeps the stream open
with nothing to read, the task waits.

A hydration is a task of its own. When the server's answer comes, the room
it gives is put at the back of the store, as fetching a room always puts
it, and a failed fetch changes nothing. Nothing waits for a hydration: not
the feed task, and not the shutdown of the feed, which cancels the token
and waits for the feed task alone.

A receiver of a broadcast channel sees what is sent after it subscribed.
It keeps the last 256 messages; one that falls further behind skips the
oldest and is told how many it skipped.
-/

namespace RoomConsole

open RoomConsole.Event

/-! ## Broadcast receivers -/

/-- The messages a broadcast receiver keeps. -/
def broadcastCapacity : Nat := 256

/-- A receiver of a broadcast channel: what it has yet to receive, oldest
first, and how many messages it skipped since it last received. -/
structure Inbox (α : Type) where
  pending : List α := []
  missed : Nat := 0
  deriving Repr

/-- What receiving gives. -/
inductive Received (α : Type) where
  /-- The receiver fell behind and skipped this many messages. -/
  | lagged (n : Nat)
  | message (a : α)

namespace Inbox

variable {α : Type}

/-- A message sent while the receiver listens: kept, and the oldest one
skipped when the receiver already holds as many as the channel keeps. -/
def push (b : Inbox α) (a : α) : Inbox α :=
  if b.pending.length < broadcastCapacity then { b with pending := b.pending ++ [a] }
  else { pending := b.pending.tail ++ [a], missed := b.missed + 1 }

/-- Receive: first the count of skipped messages, then the oldest message
kept; nothing while there is neither. -/
def take (b : Inbox α) : Option (Received α × Inbox α) :=
  if 0 < b.missed then some (.lagged b.missed, { b with missed := 0 })
  else match b.pending with
    | [] => none
    | a :: rest => some (.message a, { b with pending := rest })

end Inbox

/-! ## The feed task -/

/-- The feed task: the subscription's items not read yet, whether the
server ends the stream after them, and the state the task sent as it
ended. -/
structure FeedTask where
  items : List (Except Client.Error ServerEvent)
  /-- The server ends the stream after the items; otherwise it keeps it open. -/
  ends : Bool := true
  final : Option FeedState := none

namespace FeedTask

/-- What one step of the feed task does. -/
inductive Move where
  /-- Read an event, to fold it and send it on. -/
  | event (e : ServerEvent)
  /-- Skip an item that does not decode. -/
  | skip
  /-- End, sending this state. -/
  | finish (st : FeedState)

/-- The task's next move, and the task after it; none once it ended, or
while the stream stays open with nothing to read. The token comes first. -/
def next (cancelled : Bool) (f : FeedTask) : Option (Move × FeedTask) :=
  if f.final.isSome then none
  else if cancelled then some (.finish .closed, { f with final := some .closed })
  else match f.items with
    | [] => if f.ends then some (.finish .closed, { f with final := some .closed }) else none
    | .ok e :: rest => some (.event e, { f with items := rest })
    | .error (.deserialization _ _) :: rest => some (.skip, { f with items := rest })
    | .error err :: _ => some (.finish (.failed err.message), { f with final := some (.failed err.message) })

/-- Folding an event: the store after it and, when `created` brought a
room the store did not know and hydration is on, the room to fetch. -/
def handle (hydrate : Bool) (s : Store) (e : ServerEvent) : Store × Option String :=
  match foldEvent s e with
  | (s', .createdUnknown id) => (s', if hydrate then some id else none)
  | (s', _) => (s', none)

/-- A hydration's answer comes: the room the server gave goes to the back
of the store; a failed fetch changes nothing. -/
def hydrated (net : Http.Network) (c : Client) (s : Store) (id : String) : Store :=
  (Command.run net c s (.getRoom id)).2

end FeedTask

/-! ## A feed and its hydrations -/

/-- A feed with the hydrations it spawned, over the store they write: the
feed task, the store, the rooms whose fetch is in flight in the order they
were spawned, the events the task sent, and whether its token was
cancelled. -/
structure FeedRun where
  task : FeedTask
  store : Store
  pending : List String := []
  sent : List ServerEvent := []
  cancelled : Bool := false

namespace FeedRun

/-- A feed just started over a store: the subscription's items unread, no
fetch in flight, nothing sent, the token not cancelled. -/
def start (s : Store) (items : List (Except Client.Error ServerEvent)) : FeedRun :=
  { task := { items }, store := s }

/-- The feed task takes a step; with it, the event it sent, if any. -/
def feedStep (hydrate : Bool) (r : FeedRun) : Option (FeedRun × Option ServerEvent) :=
  match r.task.next r.cancelled with
  | none => none
  | some (.event e, t) =>
    let (s, spawned) := FeedTask.handle hydrate r.store e
    some ({ r with task := t, store := s, pending := r.pending ++ spawned.toList, sent := r.sent ++ [e] },
      some e)
  | some (_, t) => some ({ r with task := t }, none)

/-- The hydration at position `i` among those in flight gets its answer. -/
def hydrationStep (net : Http.Network) (c : Client) (i : Nat) (r : FeedRun) : Option FeedRun :=
  match r.pending[i]? with
  | none => none
  | some id => some { r with store := FeedTask.hydrated net c r.store id, pending := r.pending.eraseIdx i }

/-- Shutting the feed down cancels its token. -/
def cancel (r : FeedRun) : FeedRun := { r with cancelled := true }

/-- The shutdown has returned: the token is cancelled and the feed task
has ended. -/
def shutDown (r : FeedRun) : Bool := r.cancelled && r.task.final.isSome

/-- Who moves next: the feed task, a hydration, or the caller shutting the
feed down. -/
inductive Mover where
  | feed
  | hydration (i : Nat)
  | shutdown
  deriving DecidableEq, Repr

/-- One move; none when the one scheduled cannot move. -/
def step (net : Http.Network) (c : Client) (hydrate : Bool) (r : FeedRun) : Mover → Option FeedRun
  | .feed => (r.feedStep hydrate).map (·.1)
  | .hydration i => r.hydrationStep net c i
  | .shutdown => some r.cancel

/-- Let the feed, its hydrations and the caller move in the order a
schedule gives; none when one scheduled cannot move. -/
def run (net : Http.Network) (c : Client) (hydrate : Bool) : FeedRun → List Mover → Option FeedRun
  | r, [] => some r
  | r, m :: ms => (r.step net c hydrate m).bind fun r' => run net c hydrate r' ms

end FeedRun

end RoomConsole
