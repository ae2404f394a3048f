import RoomConsole.Room.Entry
import RoomConsole.Pull.Status
import RoomConsole.Capabilities

/-!
# The store

The store is the console's picture of the server: the rooms in order, at
most one per id, the server's capabilities once fetched, and the pull
status.

It keeps the rooms twice. The **collection** is a map from id to room that
remembers the order its ids came in; it is what a change edits and what a
lookup by id reads. The **snapshot** is the whole picture as last
published, its room list read off the collection. Every change that takes
effect bumps the snapshot's version by one; a change that takes none (an
empty patch on a known room, removing a missing id) publishes nothing.

Observers watch four channels: the whole snapshot, the rooms, the
capabilities and the pull status. A channel holds the value it last
published and counts how often it has published, so an observer knows
whether something new came since it last looked. A change publishes the
channels of the parts it touched and the snapshot.

Rooms are placed by the change that brings them: a room not yet known goes
to the front or the back; a known room keeps its place, replaced by a whole
entry or patched in place.
-/

namespace RoomConsole.Store

open RoomConsole.Room

/-! ## Maps that keep their insertion order -/

/-- Values keyed by text, in the order their keys came in, no key twice. -/
structure IndexMap (α : Type) where
  pairs : List (String × α)
  distinct : (pairs.map (·.1)).Nodup

namespace IndexMap

variable {α : Type}

/-- The map with no pairs. -/
def empty : IndexMap α := ⟨[], List.nodup_nil⟩

/-- The keys, in order. -/
def keys (m : IndexMap α) : List String := m.pairs.map (·.1)

/-- The values, in order. -/
def values (m : IndexMap α) : List α := m.pairs.map (·.2)

/-- The number of pairs. -/
def size (m : IndexMap α) : Nat := m.pairs.length

/-- The value under a key. -/
def get? (m : IndexMap α) (k : String) : Option α := m.pairs.lookup k

/-- Change the value under a key where it stands; nothing when the key is
absent. -/
def modify (m : IndexMap α) (k : String) (f : α → α) : IndexMap α where
  pairs := m.pairs.map fun p => (p.1, if p.1 = k then f p.2 else p.2)
  distinct := by simpa [List.map_map, Function.comp_def] using m.distinct

/-- Put a value under a key: where the key stands when it is there, else at
the end. -/
def insert (m : IndexMap α) (k : String) (v : α) : IndexMap α :=
  if h : k ∈ m.keys then m.modify k fun _ => v
  else
    { pairs := m.pairs ++ [(k, v)]
      distinct := by
        rw [List.map_append, List.nodup_append]
        refine ⟨m.distinct, by simp, ?_⟩
        rintro a ha b hb rfl
        simp only [List.map_cons, List.map_nil, List.mem_singleton] at hb
        exact h (hb ▸ ha) }

/-- Put a pair first; a key already there moves to the front with the new
value. -/
def shiftInsertFront (m : IndexMap α) (k : String) (v : α) : IndexMap α where
  pairs := (k, v) :: m.pairs.filter (·.1 ≠ k)
  distinct := by
    rw [List.map_cons, List.nodup_cons]
    constructor
    · simp
    · exact m.distinct.sublist (List.filter_sublist.map _)

/-- Take a key out, keeping the order of the rest: the value it had. -/
def shiftRemove (m : IndexMap α) (k : String) : Option α × IndexMap α :=
  (m.get? k, { pairs := m.pairs.filter (·.1 ≠ k)
               distinct := m.distinct.sublist (List.filter_sublist.map _) })

end IndexMap

/-! ## The room collection -/

/-- The rooms by id, in their order. -/
structure Collection where
  byId : IndexMap Entry := IndexMap.empty

namespace Collection

/-- A collection of the given rooms, in their order; a repeated id keeps its
first place and its last value. -/
def replaceAll (entries : List Entry) : Collection :=
  ⟨entries.foldl (fun m e => m.insert e.id e) IndexMap.empty⟩

/-- Insert or update a room; whether its id was new. A known room is
replaced or patched where it stands; a new one goes first or last. -/
def upsert (c : Collection) (u : Upsert) (p : Placement) : Collection × Bool :=
  match c.byId.get? u.id with
  | some _ => (⟨c.byId.modify u.id u.onto⟩, false)
  | none =>
    let e := u.fresh
    (⟨match p with
      | .front => c.byId.shiftInsertFront e.id e
      | .back => c.byId.insert e.id e⟩, true)

/-- Remove a room, keeping the order of the rest; the room removed. -/
def remove (c : Collection) (id : String) : Option Entry × Collection :=
  let (e, m) := c.byId.shiftRemove id
  (e, ⟨m⟩)

/-- A room by id. -/
def get (c : Collection) (id : String) : Option Entry := c.byId.get? id

/-- The number of rooms. -/
def len (c : Collection) : Nat := c.byId.size

/-- The rooms, in order. -/
def toVec (c : Collection) : List Entry := c.byId.values

end Collection

/-! ## Snapshots, channels and the store -/

/-- Everything the store holds at one moment. -/
structure Snapshot where
  rooms : List Entry := []
  config : Option Capabilities := none
  pull : Pull.Status := {}
  /-- Bumped once for every change that takes effect. -/
  version : Nat := 0

/-- A watch channel: the value it last published and how often it has
published. -/
structure Channel (α : Type) where
  value : α
  sent : Nat := 0

/-- Publish a value in place of the one held. -/
def Channel.send {α : Type} (c : Channel α) (v : α) : Channel α := { value := v, sent := c.sent + 1 }

end RoomConsole.Store

namespace RoomConsole

open RoomConsole.Room RoomConsole.Store in
/-- The store: the collection and the snapshot it guards, and the four
channels it publishes on. -/
structure Store where
  rooms : Collection := {}
  current : Snapshot := {}
  snapshotChannel : Channel Snapshot := { value := {} }
  roomsChannel : Channel (List Entry) := { value := [] }
  configChannel : Channel (Option Capabilities) := { value := none }
  pullChannel : Channel Pull.Status := { value := {} }

end RoomConsole

namespace RoomConsole.Store

open RoomConsole.Room

/-- The parts of the store a change touched. -/
structure Touched where
  rooms : Bool := false
  config : Bool := false
  pull : Bool := false

/-- Whether a change touched anything. -/
def Touched.any (t : Touched) : Bool := t.rooms || t.config || t.pull

/-- What a change made of the collection and of the copy of the snapshot it
was handed, the parts it says it touched, and its answer. -/
structure Edit (β : Type) where
  rooms : Collection
  next : Snapshot
  touched : Touched
  answer : β

section

/-- Run one change and publish it. The collection keeps whatever the change
did to it. When the change touched nothing, that is all; otherwise its copy
of the snapshot, with the room list read off the collection when it touched
the rooms and the version bumped, becomes the snapshot, and is sent on the
snapshot channel and on the channel of each part it touched. -/
def mutate {β : Type} (s : Store) (f : Collection → Snapshot → Edit β) : Store × β :=
  let r := f s.rooms s.current
  if r.touched.any then
    let next := if r.touched.rooms then { r.next with rooms := r.rooms.toVec } else r.next
    let next := { next with version := s.current.version + 1 }
    ({ rooms := r.rooms
       current := next
       snapshotChannel := s.snapshotChannel.send next
       roomsChannel := if r.touched.rooms then s.roomsChannel.send next.rooms else s.roomsChannel
       configChannel :=
         if r.touched.config then s.configChannel.send next.config else s.configChannel
       pullChannel := if r.touched.pull then s.pullChannel.send next.pull else s.pullChannel },
     r.answer)
  else ({ s with rooms := r.rooms }, r.answer)

/-- Replace the capabilities. -/
def setConfig (s : Store) (c : Capabilities) : Store :=
  (s.mutate fun rooms next => ⟨rooms, { next with config := some c }, { config := true }, ()⟩).1

/-- Replace the room list. -/
def replaceRooms (s : Store) (entries : List Entry) : Store :=
  (s.mutate fun _ next => ⟨Collection.replaceAll entries, next, { rooms := true }, ()⟩).1

/-- Insert or merge a room; whether it was new. An empty patch on a known
room changes nothing. -/
def upsertRoom (s : Store) (u : Upsert) (p : Placement) : Store × Bool :=
  s.mutate fun rooms next =>
    if u.isEmptyPatch && (rooms.get u.id).isSome then ⟨rooms, next, {}, false⟩
    else
      let (rooms, inserted) := rooms.upsert u p
      ⟨rooms, next, { rooms := true }, inserted⟩

/-- Remove a room; the room removed, if there was one. -/
def removeRoom (s : Store) (id : String) : Store × Option Entry :=
  s.mutate fun rooms next =>
    let (removed, rooms) := rooms.remove id
    ⟨rooms, next, if removed.isSome then { rooms := true } else {}, removed⟩

/-- Replace the room `oldId` by `e` in one change. -/
def swapRoom (s : Store) (oldId : String) (e : Entry) (p : Placement) : Store :=
  (s.mutate fun rooms next =>
    ⟨(((rooms.remove oldId).2).upsert (.full e) p).1, next, { rooms := true }, ()⟩).1

/-- Replace the pull status. -/
def setPull (s : Store) (st : Pull.Status) : Store :=
  (s.mutate fun rooms next => ⟨rooms, { next with pull := st }, { pull := true }, ()⟩).1

/-- The snapshot as last published. -/
def snapshot (s : Store) : Snapshot := s.snapshotChannel.value

/-- The room list as last published. -/
def roomsSnapshot (s : Store) : List Entry := s.roomsChannel.value

/-- A room by id, from the collection. -/
def room (s : Store) (id : String) : Option Entry := s.rooms.get id

/-- The first published room with a name. -/
def roomByName (s : Store) (name : String) : Option Entry := s.roomsChannel.value.find? (·.name == name)

/-- The number of rooms in the collection. -/
def roomCount (s : Store) : Nat := s.rooms.len

/-- The published version. -/
def version (s : Store) : Nat := s.snapshotChannel.value.version

/-- How often the room channel has published. -/
def roomsSent (s : Store) : Nat := s.roomsChannel.sent

/-- How often the capabilities channel has published. -/
def configSent (s : Store) : Nat := s.configChannel.sent

/-- How often the pull status channel has published. -/
def pullSent (s : Store) : Nat := s.pullChannel.sent

/-- How often the snapshot channel has published. -/
def snapshotSent (s : Store) : Nat := s.snapshotChannel.sent

end

end RoomConsole.Store
