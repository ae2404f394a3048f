import RoomConsole.Store.Basic
import RoomConsole.Room.Filter

/-!
# Watching the store

A `Watch` remembers how many times a channel had published when its
holder last looked, so it can tell whether something new came since.

A `RoomStream` follows the room list through a filter: it holds the view
as of its making or of its last change, in store order. Polling it takes
the latest list when the room channel has published since, and otherwise
has nothing yet. Turned into a `RoomFeed`, its first poll gives the list as
it is at once, and later polls give each newer list.
-/

namespace RoomConsole.Store

open RoomConsole.Room

/-- The rooms a filter keeps, in order; no filter keeps all. -/
def narrow (f : Option Filter) (rooms : List Entry) : List Entry :=
  match f with
  | none | some .all => rooms
  | some f => rooms.filter f.accepts

/-- A look at a channel: how many times it had published then. -/
structure Watch where
  seen : Nat
  deriving DecidableEq, Repr

/-- Whether the channel has published since the look, and the new look. -/
def Watch.check (w : Watch) (sent : Nat) : Bool × Watch := (sent != w.seen, { seen := sent })

/-- Looks at the four channels of a store. -/
structure Watches where
  snapshot : Watch
  pull : Watch
  config : Watch

/-- Looks at a store's channels as they are now. -/
def watches (s : Store) : Watches :=
  { snapshot := ⟨s.snapshotSent⟩, pull := ⟨s.pullSent⟩, config := ⟨s.configSent⟩ }

/-- A subscription to the room list. -/
structure RoomStream where
  filter : Option Filter := none
  /-- The view as of the last change. -/
  current : List Entry
  watch : Watch

/-- Subscribe to the room list. -/
def subscribeRooms (s : Store) : RoomStream :=
  { current := s.roomsChannel.value, watch := ⟨s.roomsSent⟩ }

/-- Only keep rooms a filter accepts, from the list as it is now. -/
def RoomStream.filtered (r : RoomStream) (s : Store) (f : Filter) : RoomStream :=
  { r with filter := some f, current := narrow (some f) s.roomsChannel.value }

/-- Poll once: the new view when the room list has changed since. -/
def RoomStream.changed (r : RoomStream) (s : Store) : Option (List Entry) × RoomStream :=
  let (fresh, w) := r.watch.check s.roomsSent
  if fresh then
    let now := narrow r.filter s.roomsChannel.value
    (some now, { r with current := now, watch := w })
  else (none, r)

/-- A room subscription read as a sequence of views. -/
structure RoomFeed where
  filter : Option Filter
  /-- The last look; none before the first poll. -/
  watch : Option Watch

/-- Read a subscription as a sequence. -/
def RoomStream.toFeed (r : RoomStream) : RoomFeed := { filter := r.filter, watch := none }

/-- Poll once: the list at once on the first poll, then each newer list. -/
def RoomFeed.next (f : RoomFeed) (s : Store) : Option (List Entry) × RoomFeed :=
  match f.watch with
  | none => (some (narrow f.filter s.roomsChannel.value), { f with watch := some ⟨s.roomsSent⟩ })
  | some w =>
    let (fresh, w') := w.check s.roomsSent
    if fresh then (some (narrow f.filter s.roomsChannel.value), { f with watch := some w' })
    else (none, f)

end RoomConsole.Store
