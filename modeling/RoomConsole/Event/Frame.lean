import RoomConsole.Text.Utf8

/-!
# Reading an event stream

The server pushes events as `text/event-stream`: lines of `field: value`,
a blank line ending each frame. A `FrameReader` takes the body in chunks
that may split lines or frames anywhere, and keeps what has no line end yet.

A line ends at a line feed only, and carriage returns before it are dropped;
its bytes are read as UTF-8 with U+FFFD for what is not. A line starting
with `:` is a comment. Otherwise the field name is the text before the first
colon and the value what follows it, less one leading space; a line with no
colon is a field with an empty value. Only `event` and `data` count: `event`
names the frame, and each `data` line adds to its data, the lines joined by
line feeds. A blank line ends the frame: it is given out only when it had a
`data` line, named `message` when it had no name, and the name is cleared
either way.
-/

namespace RoomConsole.Event

/-- One frame: its event name and its data. -/
structure Frame where
  event : String
  data : String
  deriving DecidableEq, Repr

/-- The state of reading an event stream. -/
structure FrameReader where
  /-- Bytes after the last line end. -/
  pending : List UInt8 := []
  event : String := ""
  data : String := ""
  /-- Whether the frame being read has had a `data` line. -/
  hasData : Bool := false
  deriving DecidableEq, Repr

namespace FrameReader

/-- End the frame being read. -/
def dispatch (r : FrameReader) : FrameReader × Option Frame :=
  let r' : FrameReader := { r with event := "", data := "", hasData := false }
  if r.hasData then
    (r', some { event := if r.event.isEmpty then "message" else r.event, data := r.data })
  else (r', none)

/-- Take one line, without its line end. -/
def line (r : FrameReader) (text : String) : FrameReader × Option Frame :=
  if text.isEmpty then r.dispatch
  else if text.startsWith ":" then (r, none)
  else
    let cs := text.toList
    let field := String.ofList (cs.takeWhile (· ≠ ':'))
    let after := cs.drop (field.length + 1)
    let value := String.ofList (match after with
      | ' ' :: rest => rest
      | _ => after)
    if field = "event" then ({ r with event := value }, none)
    else if field = "data" then
      ({ r with data := (if r.hasData then r.data ++ "\n" else r.data) ++ value, hasData := true }, none)
    else (r, none)

/-- The text of a line's bytes, carriage returns at its end dropped. -/
def lineText (bytes : List UInt8) : String :=
  String.ofList ((Text.Utf8.decode bytes).reverse.dropWhile (· = '\r')).reverse

/-- Take every complete line of the pending bytes; `fuel` bounds the lines. -/
def drain : Nat → FrameReader → List Frame → FrameReader × List Frame
  | 0, r, acc => (r, acc.reverse)
  | fuel + 1, r, acc =>
    let head := r.pending.takeWhile (· ≠ 0x0A)
    if head.length < r.pending.length then
      let (r', frame) := { r with pending := r.pending.drop (head.length + 1) }.line (lineText head)
      drain fuel r' (match frame with
        | some f => f :: acc
        | none => acc)
    else (r, acc.reverse)

/-- Take a chunk of the body: the frames it completes, in order. -/
def push (r : FrameReader) (chunk : List UInt8) : FrameReader × List Frame :=
  let r := { r with pending := r.pending ++ chunk }
  drain (r.pending.length + 1) r []

end FrameReader

end RoomConsole.Event
