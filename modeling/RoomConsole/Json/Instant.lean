import RoomConsole.Json.Decoder
import RoomConsole.Time.Instant

/-!
# Instants in JSON

An instant is written as its RFC 3339 text in UTC and read from relaxed
RFC 3339 text with any offset; a text that is no instant is refused with the
reason `Instant.parse` gives.
-/

namespace RoomConsole.Json

open RoomConsole.Time

/-- An instant as a JSON string. -/
def ofInstant (t : Instant) : Json := .str t.rfc3339

/-- An optional instant, `null` when absent. -/
def ofInstant? (t : Option Instant) : Json := Json.opt Json.ofInstant t

/-- Instants from RFC 3339 strings. -/
def Decoder.instant : Decoder Instant :=
  Decoder.stringWith "an RFC 3339 formatted date and time string"
    fun s => match Instant.parse s with
      | .ok t => .ok t
      | .error e => .error e.message

end RoomConsole.Json
