import RoomConsole.Event.Frame
import RoomConsole.Pull.Json
import RoomConsole.Client.Error

/-!
# Typed server events

A frame named `rooms` carries a room change, `{"id": .., "action": ..}`; a
frame named `pull` carries the whole pull status in its server form. Any
other name, compared exactly, is kept as it came. A known name whose data
does not decode is a deserialization error holding the data; an unknown name
never fails.

The six actions a server sends are known by their lower-case names, and any
other string is kept as it is, so a newer server's actions pass through. A
known action may also be written as an object whose only key is its name
and whose value is `null` (or `{}`); anything else is refused.
-/

namespace RoomConsole.Event

open RoomConsole.Json

/-- What happened to a room. -/
inductive Action where
  | created
  | started
  | ready
  | stopped
  | destroyed
  | paused
  /-- An action this console does not know. -/
  | other (name : String)
  deriving DecidableEq, Repr

/-- The known actions by name. -/
def Action.known : List (String × Action) :=
  [("created", .created), ("started", .started), ("ready", .ready), ("stopped", .stopped),
   ("destroyed", .destroyed), ("paused", .paused)]

/-- The name of an action. -/
def Action.name : Action → String
  | .created => "created"
  | .started => "started"
  | .ready => "ready"
  | .stopped => "stopped"
  | .destroyed => "destroyed"
  | .paused => "paused"
  | .other s => s

/-- The action a document names, if it names one. -/
def Action.ofJson? : Json → Option Action
  | .str s => some ((Action.known.lookup s).getD (.other s))
  | .obj [(k, v)] =>
    match Action.known.lookup k, v with
    | some a, .null => some a
    | some a, .obj [] => some a
    | _, _ => none
  | _ => none

/-- The refusal of a document that names no action. -/
def Action.refusal : Fault := .custom "data did not match any variant of untagged enum RoomEventAction"

/-- Actions, read from any document. -/
def Action.decoder : Decoder Action where
  expecting := "RoomEventAction"
  read := do
    match Action.ofJson? (← Reader.raw) with
    | some a => pure a
    | none => Reader.refuse Action.refusal
  ofJson j := match Action.ofJson? j with
    | some a => .ok a
    | none => .error Action.refusal

/-- A change to one room. -/
structure RoomChange where
  id : String
  action : Action
  deriving DecidableEq, Repr

/-- Room changes; both fields are required. -/
def RoomChange.decoder : Decoder RoomChange :=
  Decoder.record "RoomEvent" { id := "", action := .other "" }
    [ Decoder.field "id" .required Decoder.string fun v c => { c with id := v },
      Decoder.field "action" .required Action.decoder fun v c => { c with action := v } ]

/-- A room change as JSON. -/
def RoomChange.toJson (c : RoomChange) : Json := .obj [("id", .str c.id), ("action", .str c.action.name)]

/-- An event from the server. -/
inductive ServerEvent where
  | rooms (change : RoomChange)
  | pull (status : Pull.Status)
  /-- A frame whose name this console does not know. -/
  | unknown (event data : String)
  deriving DecidableEq

/-- An event as JSON: its kind under `event` and its content under `data`. -/
def ServerEvent.toJson : ServerEvent → Json
  | .rooms c => .obj [("event", .str "rooms"), ("data", c.toJson)]
  | .pull s => .obj [("event", .str "pull"), ("data", s.toServerJson)]
  | .unknown e d => .obj [("event", .str "unknown"), ("data", .obj [("event", .str e), ("data", .str d)])]

/-- Decode a frame's data, or say why it does not decode. -/
def decodePayload {α : Type} (d : Decoder α) (data : String) : Except Client.Error α :=
  (Decoder.decode d data).mapError fun e =>
    .deserialization ("invalid event payload: " ++ e.message) data

/-- The event a frame carries. -/
def ServerEvent.ofFrame (f : Frame) : Except Client.Error ServerEvent :=
  if f.event = "rooms" then .rooms <$> decodePayload RoomChange.decoder f.data
  else if f.event = "pull" then .pull <$> decodePayload Pull.Status.serverDecoder f.data
  else .ok (.unknown f.event f.data)

/-- The events of a body read item by item: each chunk's frames, typed, as
the chunk arrives; an item that is a failure ends the stream with one
stream error, and nothing after it is read. -/
def fromByteStream (items : List (Except String (List UInt8))) :
    List (Except Client.Error ServerEvent) :=
  go {} items
where
  /-- Read on with the decoder in state `r`. -/
  go (r : FrameReader) : List (Except String (List UInt8)) → List (Except Client.Error ServerEvent)
    | [] => []
    | .ok bytes :: rest => (r.push bytes).2.map ServerEvent.ofFrame ++ go (r.push bytes).1 rest
    | .error e :: _ => [.error (.eventStream ("stream interrupted: " ++ e))]

/-- The events of a body given in chunks, which broke with `failure` after
the last of them when it broke. -/
def subscriptionItems (chunks : List (List UInt8)) (failure : Option String) :
    List (Except Client.Error ServerEvent) :=
  fromByteStream (chunks.map .ok ++ failure.toList.map .error)

end RoomConsole.Event
