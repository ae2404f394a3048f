import RoomConsole.Dispatcher

/-!
# The event feed

The feed folds the server's events into the store through the same changes
the dispatcher makes, and passes every event on to observers.

A room event patches the room it names: `started` marks it running and
`Up`, `ready` marks it ready, `stopped` and `paused` clear its readiness
and mark it `Exited` or `Paused`. `created` places an empty entry at the
front when the room is new, and `destroyed` removes it; actions this
console does not know are skipped. A pull event replaces the pull status.
When asked to, the feed fetches a room that `created` announced but the
store did not know.

A payload that does not decode is skipped. A broken stream fails the feed
with its error; a stream the server ends closes it.
-/

namespace RoomConsole

open RoomConsole.Room RoomConsole.Event

/-- Where a feed is in its life. -/
inductive FeedState where
  | connecting
  | live
  /-- The server ended the stream, or the feed was shut down. -/
  | closed
  /-- The stream broke while reading. -/
  | failed (message : String)
  deriving DecidableEq, Repr

/-- Whether a feed has ended. -/
def FeedState.isTerminal : FeedState → Bool
  | .closed | .failed _ => true
  | _ => false

/-- What folding an event did. -/
inductive Fold where
  | applied
  /-- `created` brought a room the store did not know. -/
  | createdUnknown (id : String)
  | skipped
  deriving DecidableEq, Repr

/-- The patch a room action makes, when it makes one. -/
def actionPatch (id : String) : Action → Option Patch
  | .started => some { id, running := some true, paused := some false, status := some "Up" }
  | .ready => some { id, ready := some true }
  | .stopped => some { id, running := some false, paused := some false, ready := some false,
                       status := some "Exited" }
  | .paused => some { id, running := some false, paused := some true, ready := some false,
                      status := some "Paused" }
  | _ => none

/-- Fold one event into the store. -/
def foldEvent (s : Store) : ServerEvent → Store × Fold
  | .rooms ch =>
    match ch.action with
    | .created =>
      let (s', inserted) := s.upsertRoom (.patch (Patch.blank ch.id)) .front
      (s', if inserted then .createdUnknown ch.id else .applied)
    | .destroyed => ((s.removeRoom ch.id).1, .applied)
    | a =>
      match actionPatch ch.id a with
      | some p => ((s.upsertRoom (.patch p) .front).1, .applied)
      | none => (s, .skipped)
  | .pull st => (s.setPull st, .applied)
  | .unknown _ _ => (s, .skipped)

/-- Fold a subscription's items: the store after them, the events passed
on, and how the feed ended. Created rooms are fetched when `hydrate`. -/
def foldItems (net : Http.Network) (c : Client) (hydrate : Bool) :
    Store → List ServerEvent → List (Except Client.Error ServerEvent) →
    Store × List ServerEvent × FeedState
  | s, seen, [] => (s, seen.reverse, .closed)
  | s, seen, .ok ev :: rest =>
    let (s', fold) := foldEvent s ev
    let s'' := match fold with
      | .createdUnknown id => if hydrate then (Command.run net c s' (.getRoom id)).2 else s'
      | _ => s'
    foldItems net c hydrate s'' (ev :: seen) rest
  | s, seen, .error (.deserialization _ _) :: rest => foldItems net c hydrate s seen rest
  | s, seen, .error e :: _ => (s, seen.reverse, .failed e.message)

/-- Subscribe and run a feed to its end: the store, the events passed on
and the final state; or the error that refused the subscription. -/
def runFeed (net : Http.Network) (c : Client) (hydrate : Bool) (s : Store) :
    Except Error (Store × List ServerEvent × FeedState) :=
  match c.subscribeEvents net with
  | .error e => .error e.toConsole
  | .ok items => .ok (foldItems net c hydrate s [] items)

end RoomConsole
