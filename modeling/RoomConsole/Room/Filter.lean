import RoomConsole.Room.Entry
import RoomConsole.Text.Lowercase

/-!
# Filters over rooms

A filter picks rooms out of a snapshot without asking the server again: all
of them, those in a state, those carrying a label with a value, those whose
name holds a text (both lower-cased by the Unicode rules, so a final `Σ`
reads as `ς`), the ready ones, the outdated ones, or those a given test
accepts.
-/

namespace RoomConsole.Room

/-- A test on rooms. -/
inductive Filter where
  | all
  | byState (s : State)
  /-- The room carries `key` with this value. -/
  | byLabel (key value : String)
  /-- The room's name holds the text, ignoring case. -/
  | nameContains (text : String)
  | ready
  | outdated
  | custom (test : Entry → Bool)

/-- Whether `needle` starts the list or occurs later in it. -/
def occursIn (needle : List Char) : List Char → Bool
  | [] => needle.isEmpty
  | c :: rest => needle.isPrefixOf (c :: rest) || occursIn needle rest

/-- Whether `needle` occurs in `haystack`; the empty text occurs everywhere. -/
def containsText (haystack needle : String) : Bool := occursIn needle.toList haystack.toList

/-- Whether a filter keeps a room. -/
def Filter.accepts (f : Filter) (e : Entry) : Bool :=
  match f with
  | .all => true
  | .byState s => e.state == s
  | .byLabel k v => e.labels.lookup k == some v
  | .nameContains t => containsText (Text.lowercase e.name) (Text.lowercase t)
  | .ready => e.ready
  | .outdated => e.outdated
  | .custom test => test e

end RoomConsole.Room
