import RoomConsole.Json.Instant
import RoomConsole.Room.Entry

/-!
# Rooms in JSON

A room has two JSON forms. The **stored** form is strict: every field but
`created` must be present, and labels are always written. The **server**
form is lenient, as the server may omit any field (a missing one takes its
default), and it leaves out labels when there are none. Both name fields as
the server does (`neko_image`, `is_outdated`, `is_ready`, …) and write them in
one order.

A patch names its room by `id`, which it must have; any other field may be
missing or `null`, meaning the patch does not carry it, and only the fields
it carries are written.
-/

namespace RoomConsole.Room

open RoomConsole.Json

/-- A map of labels as a JSON object. -/
def labelsJson (labels : List (String × String)) : Json :=
  .obj (labels.map fun (k, v) => (k, .str v))

/-- The fields of a room, labels included when `withLabels`. -/
def Entry.jsonFields (e : Entry) (withLabels : Bool) : List (String × Json) :=
  [("id", .str e.id), ("url", .str e.url), ("name", .str e.name), ("neko_image", .str e.image),
    ("is_outdated", .bool e.outdated), ("max_connections", Json.nat e.maxConnections),
    ("running", .bool e.running), ("paused", .bool e.paused), ("is_ready", .bool e.ready),
    ("status", .str e.status), ("created", Json.ofInstant? e.created)]
  ++ (if withLabels then [("labels", labelsJson e.labels)] else [])

/-- The stored form of a room. -/
def Entry.toJson (e : Entry) : Json := .obj (e.jsonFields true)

/-- The server form of a room: labels only when there are some. -/
def Entry.toServerJson (e : Entry) : Json := .obj (e.jsonFields !e.labels.isEmpty)

/-- The fields of a room, each read by the decoder of its kind. -/
def Entry.fields (p : Decoder.Presence) : List (Decoder.Field Entry) :=
  [ Decoder.field "id" p Decoder.string fun v e => { e with id := v },
    Decoder.field "url" p Decoder.string fun v e => { e with url := v },
    Decoder.field "name" p Decoder.string fun v e => { e with name := v },
    Decoder.field "neko_image" p Decoder.string fun v e => { e with image := v },
    Decoder.field "is_outdated" p Decoder.bool fun v e => { e with outdated := v },
    Decoder.field "max_connections" p Decoder.u16 fun v e => { e with maxConnections := v },
    Decoder.field "running" p Decoder.bool fun v e => { e with running := v },
    Decoder.field "paused" p Decoder.bool fun v e => { e with paused := v },
    Decoder.field "is_ready" p Decoder.bool fun v e => { e with ready := v },
    Decoder.field "status" p Decoder.string fun v e => { e with status := v },
    Decoder.field "created" (if p = .required then .optional else p) (Decoder.option Decoder.instant)
      fun v e => { e with created := v },
    Decoder.field "labels" p (Decoder.map Decoder.string) fun v e => { e with labels := v } ]

/-- The stored form: every field but `created` required. -/
def Entry.decoder : Decoder Entry := Decoder.record "RoomEntry" (Entry.skeleton "") (Entry.fields .required)

/-- The server form: every field may be missing. -/
def Entry.serverDecoder : Decoder Entry :=
  Decoder.record "RoomEntryResponse" (Entry.skeleton "") (Entry.fields .defaulted)

/-- The fields a patch carries. -/
def Patch.toJson (p : Patch) : Json :=
  let some' {α : Type} (k : String) (f : α → Json) : Option α → List (String × Json)
    | none => []
    | some a => [(k, f a)]
  .obj ([("id", .str p.id)] ++ some' "url" .str p.url ++ some' "name" .str p.name
    ++ some' "neko_image" .str p.image ++ some' "is_outdated" .bool p.outdated
    ++ some' "max_connections" Json.nat p.maxConnections ++ some' "running" .bool p.running
    ++ some' "paused" .bool p.paused ++ some' "is_ready" .bool p.ready
    ++ some' "status" .str p.status ++ some' "created" Json.ofInstant p.created
    ++ some' "labels" labelsJson p.labels)

/-- Patches: `id` required, every other field optional. -/
def Patch.decoder : Decoder Patch :=
  let opt {β : Type} (name : String) (d : Decoder β) (set : Option β → Patch → Patch) :=
    Decoder.field name .defaulted (Decoder.option d) set
  Decoder.record "RoomPatch" (Patch.blank "")
    [ Decoder.field "id" .required Decoder.string fun v p => { p with id := v },
      opt "url" Decoder.string fun v p => { p with url := v },
      opt "name" Decoder.string fun v p => { p with name := v },
      opt "neko_image" Decoder.string fun v p => { p with image := v },
      opt "is_outdated" Decoder.bool fun v p => { p with outdated := v },
      opt "max_connections" Decoder.u16 fun v p => { p with maxConnections := v },
      opt "running" Decoder.bool fun v p => { p with running := v },
      opt "paused" Decoder.bool fun v p => { p with paused := v },
      opt "is_ready" Decoder.bool fun v p => { p with ready := v },
      opt "status" Decoder.string fun v p => { p with status := v },
      opt "created" Decoder.instant fun v p => { p with created := v },
      opt "labels" (Decoder.map Decoder.string) fun v p => { p with labels := v } ]

end RoomConsole.Room
