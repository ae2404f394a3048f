import RoomConsole.Json.Decoder

/-!
# Server capabilities

What the server offers rooms: how many connections it hands out, the images
a room may run, whether it stores room data, and whether all rooms share
one port pair. An image is allowed when it is one of the offered images,
exactly.
-/

namespace RoomConsole

open RoomConsole.Json

/-- What the server offers rooms. -/
structure Capabilities where
  connections : Nat := 0
  images : List String := []
  storageEnabled : Bool := false
  usesMux : Bool := false
  deriving DecidableEq, Repr, Inhabited

/-- An image a room may be created from. -/
def Capabilities.allowsImage (c : Capabilities) (image : String) : Bool := c.images.contains image

/-- The capabilities as JSON. -/
def Capabilities.toJson (c : Capabilities) : Json :=
  .obj [("connections", Json.nat c.connections), ("neko_images", .arr (c.images.map .str)),
    ("storage_enabled", .bool c.storageEnabled), ("uses_mux", .bool c.usesMux)]

/-- The capabilities' fields. -/
def Capabilities.fields (p : Decoder.Presence) : List (Decoder.Field Capabilities) :=
  [ Decoder.field "connections" p Decoder.u16 fun v c => { c with connections := v },
    Decoder.field "neko_images" p (Decoder.list Decoder.string) fun v c => { c with images := v },
    Decoder.field "storage_enabled" p Decoder.bool fun v c => { c with storageEnabled := v },
    Decoder.field "uses_mux" p Decoder.bool fun v c => { c with usesMux := v } ]

/-- The stored form: every field required. -/
def Capabilities.decoder : Decoder Capabilities :=
  Decoder.record "RoomsConfig" {} (Capabilities.fields .required)

/-- The server form: every field may be missing. -/
def Capabilities.serverDecoder : Decoder Capabilities :=
  Decoder.record "RoomsConfigResponse" {} (Capabilities.fields .defaulted)

end RoomConsole
