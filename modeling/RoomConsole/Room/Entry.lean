import RoomConsole.Time.Instant

/-!
# Rooms and their patches

An `Entry` is what the console knows of one room: its id, address, name,
image, flags and labels. A `Patch` names a room by id and carries any subset
of the other fields; `Entry.apply` takes each field the patch carries and
keeps the rest, and never touches the id.

The **state** of a room reads its two flags: paused wins over running, and a
room that is neither is stopped. A patch is **empty** when it carries no
field, and an empty patch is exactly one that `apply` cannot change.
-/

namespace RoomConsole.Room

open RoomConsole.Time

/-- The lifecycle state of a room. -/
inductive State where
  | running
  | paused
  | stopped
  deriving DecidableEq, Repr, Inhabited

/-- The name of a state. -/
def State.name : State → String
  | .running => "running"
  | .paused => "paused"
  | .stopped => "stopped"

/-- Every state, in order. -/
def State.all : List State := [.running, .paused, .stopped]

/-- ASCII letters compared without case. -/
def sameIgnoringAsciiCase (a b : String) : Bool :=
  a.length == b.length && (a.toList.zip b.toList).all fun (x, y) => x.toLower == y.toLower

/-- The state named by a text, compared without ASCII case and untrimmed. -/
def State.parse (text : String) : Option State :=
  State.all.find? fun s => sameIgnoringAsciiCase s.name text

/-- What the console knows of one room. -/
structure Entry where
  id : String
  url : String := ""
  name : String := ""
  /-- The image the room runs. -/
  image : String := ""
  /-- The image has a newer version than the one the room runs. -/
  outdated : Bool := false
  /-- Connections the room admits; 0 when the server multiplexes them. -/
  maxConnections : Nat := 0
  running : Bool := false
  paused : Bool := false
  ready : Bool := false
  /-- The server's status line. -/
  status : String := ""
  created : Option Instant := none
  /-- Labels, sorted by key. -/
  labels : List (String × String) := []
  deriving DecidableEq, Repr, Inhabited

/-- The state of a room: paused wins over running. -/
def Entry.state (e : Entry) : State :=
  if e.paused then .paused else if e.running then .running else .stopped

/-- A change to a room: the fields it carries replace the room's. -/
structure Patch where
  id : String
  url : Option String := none
  name : Option String := none
  image : Option String := none
  outdated : Option Bool := none
  maxConnections : Option Nat := none
  running : Option Bool := none
  paused : Option Bool := none
  ready : Option Bool := none
  status : Option String := none
  created : Option Instant := none
  labels : Option (List (String × String)) := none
  deriving DecidableEq, Repr, Inhabited

/-- The patch that carries no field. -/
def Patch.blank (id : String) : Patch := { id }

/-- A patch carries no field. -/
def Patch.isEmpty (p : Patch) : Bool := p == Patch.blank p.id

/-- Take every field the patch carries; keep the others and the id. -/
def Entry.apply (e : Entry) (p : Patch) : Entry :=
  { e with
    url := p.url.getD e.url
    name := p.name.getD e.name
    image := p.image.getD e.image
    outdated := p.outdated.getD e.outdated
    maxConnections := p.maxConnections.getD e.maxConnections
    running := p.running.getD e.running
    paused := p.paused.getD e.paused
    ready := p.ready.getD e.ready
    status := p.status.getD e.status
    created := p.created.or e.created
    labels := p.labels.getD e.labels }

/-- The room known only by its id. -/
def Entry.skeleton (id : String) : Entry := { id }

/-- The room a patch describes, every field it does not carry at its default. -/
def Entry.ofPatch (p : Patch) : Entry := (Entry.skeleton p.id).apply p

/-- The later patch's fields, then the earlier one's. -/
def Patch.merge (p q : Patch) : Patch :=
  { id := p.id
    url := q.url.or p.url
    name := q.name.or p.name
    image := q.image.or p.image
    outdated := q.outdated.or p.outdated
    maxConnections := q.maxConnections.or p.maxConnections
    running := q.running.or p.running
    paused := q.paused.or p.paused
    ready := q.ready.or p.ready
    status := q.status.or p.status
    created := q.created.or p.created
    labels := q.labels.or p.labels }

/-- How a room reaches the store: a whole entry confirmed by the server, or a
patch onto the room it names. -/
inductive Upsert where
  | full (e : Entry)
  | patch (p : Patch)
  deriving DecidableEq, Repr

/-- The id of the room an upsert is about. -/
def Upsert.id : Upsert → String
  | .full e => e.id
  | .patch p => p.id

/-- What an upsert leaves of the room it names, where that room was `e`: the
whole entry, or `e` patched. -/
def Upsert.onto : Upsert → Entry → Entry
  | .full n, _ => n
  | .patch q, e => e.apply q

/-- The room an upsert brings when its id is not known. -/
def Upsert.fresh : Upsert → Entry
  | .full n => n
  | .patch q => Entry.ofPatch q

/-- An upsert that changes nothing of a known room: a patch with no field. -/
def Upsert.isEmptyPatch : Upsert → Bool
  | .full _ => false
  | .patch q => q.isEmpty

/-- Where a room not yet known is placed. -/
inductive Placement where
  | front
  | back
  deriving DecidableEq, Repr

end RoomConsole.Room
