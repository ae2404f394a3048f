import RoomConsole.Json.Value
import RoomConsole.Number.Shortest
import RoomConsole.Text.Literal

/-!
# Errors of reading and decoding JSON

A `Fault` says what went wrong: a fault of the text (an unexpected end, a
missing comma, a bad escape) or a fault of the data (a value of the wrong
kind, a number out of a field's range, a missing or repeated field). An
`Error` is a fault with the place in the text it was found at, when there is
one; decoding a document already in memory has no places.

A place is a line, counted from 1, and a column, counted in bytes from the
start of the line, so the column of the first byte of a line is 0. Its
message is the fault's message followed by ` at line L column C`.
-/

namespace RoomConsole.Json

/-- A value found where another kind was expected, as refusals name it. -/
inductive Unexpected where
  | null
  | bool (b : Bool)
  | unsigned (n : Nat)
  | signed (n : Int)
  | float (f : Float)
  | str (s : String)
  | seq
  | map
  deriving Inhabited

/-- How a refusal names the value it found. -/
def Unexpected.describe : Unexpected → String
  | .null => "null"
  | .bool b => "boolean `" ++ (if b then "true" else "false") ++ "`"
  | .unsigned n => "integer `" ++ toString n ++ "`"
  | .signed n => "integer `" ++ toString n ++ "`"
  | .float f => "floating point `" ++ Number.Style.diagnostic.ofFloat f ++ "`"
  | .str s => "string " ++ Text.literal s
  | .seq => "sequence"
  | .map => "map"

/-- The kind of a document, as a refusal names it. -/
def unexpected : Json → Unexpected
  | .null => .null
  | .bool b => .bool b
  | .num (.natural n) => .unsigned n
  | .num (.negative n) => .signed n
  | .num (.float f) => .float f
  | .str s => .str s
  | .arr _ => .seq
  | .obj _ => .map

/-- The kind of a number, as a refusal names it. -/
def Number.unexpected : Number → Unexpected
  | .natural n => .unsigned n
  | .negative n => .signed n
  | .float f => .float f

/-- What went wrong reading JSON text or decoding a document. -/
inductive Fault where
  | eofInList
  | eofInObject
  | eofInString
  | eofInValue
  | expectedColon
  | expectedListCommaOrEnd
  | expectedObjectCommaOrEnd
  | expectedIdent
  | expectedValue
  | invalidEscape
  | invalidNumber
  | numberOutOfRange
  | controlCharacter
  | keyMustBeString
  | loneLeadingSurrogate
  | unexpectedEndOfHexEscape
  | trailingComma
  | trailingCharacters
  | recursionLimit
  /-- A value of the wrong kind. -/
  | invalidType (found : Unexpected) (expected : String)
  /-- A value of the right kind that the target refuses. -/
  | invalidValue (found : Unexpected) (expected : String)
  /-- A sequence of the wrong length. -/
  | invalidLength (length : Nat) (expected : String)
  /-- A name that is none of an enumeration's. -/
  | unknownVariant (name : String) (expected : List String)
  | missingField (name : String)
  | duplicateField (name : String)
  /-- A refusal worded by the target type. -/
  | custom (text : String)
  deriving Inhabited

/-- Names in backticks, separated by commas. -/
def ticked (names : List String) : String :=
  ", ".intercalate (names.map fun n => "`" ++ n ++ "`")

/-- The message of a fault. -/
def Fault.message : Fault → String
  | .eofInList => "EOF while parsing a list"
  | .eofInObject => "EOF while parsing an object"
  | .eofInString => "EOF while parsing a string"
  | .eofInValue => "EOF while parsing a value"
  | .expectedColon => "expected `:`"
  | .expectedListCommaOrEnd => "expected `,` or `]`"
  | .expectedObjectCommaOrEnd => "expected `,` or `\x7d`"
  | .expectedIdent => "expected ident"
  | .expectedValue => "expected value"
  | .invalidEscape => "invalid escape"
  | .invalidNumber => "invalid number"
  | .numberOutOfRange => "number out of range"
  | .controlCharacter => "control character (\\u0000-\\u001F) found while parsing a string"
  | .keyMustBeString => "key must be a string"
  | .loneLeadingSurrogate => "lone leading surrogate in hex escape"
  | .unexpectedEndOfHexEscape => "unexpected end of hex escape"
  | .trailingComma => "trailing comma"
  | .trailingCharacters => "trailing characters"
  | .recursionLimit => "recursion limit exceeded"
  | .invalidType found expected => "invalid type: " ++ found.describe ++ ", expected " ++ expected
  | .invalidValue found expected => "invalid value: " ++ found.describe ++ ", expected " ++ expected
  | .invalidLength n expected => "invalid length " ++ toString n ++ ", expected " ++ expected
  | .unknownVariant name expected =>
    "unknown variant `" ++ name ++ "`, " ++
      match expected with
      | [] => "there are no variants"
      | [a] => "expected `" ++ a ++ "`"
      | [a, b] => "expected `" ++ a ++ "` or `" ++ b ++ "`"
      | names => "expected one of " ++ ticked names
  | .missingField name => "missing field `" ++ name ++ "`"
  | .duplicateField name => "duplicate field `" ++ name ++ "`"
  | .custom text => text

/-- A place in JSON text. -/
structure Position where
  line : Nat
  column : Nat
  deriving Inhabited, DecidableEq

/-- The place of a byte index: one line more than the line feeds before the
start of its line, and the bytes between that start and the index. -/
def Position.ofIndex (bytes : ByteArray) (i : Nat) : Position :=
  let before := (bytes.toList.take i)
  let lineStart := (before.zipIdx.filter (·.1 == 0x0A)).foldl (fun _ p => p.2 + 1) 0
  { line := 1 + (before.take lineStart).count 0x0A, column := i - lineStart }

/-- A fault, with its place in the text when it has one. -/
structure Error where
  fault : Fault
  position : Option Position := none
  deriving Inhabited

/-- The message of an error: the fault's, then its place. -/
def Error.message (e : Error) : String :=
  match e.position with
  | none => e.fault.message
  | some p => e.fault.message ++ " at line " ++ toString p.line ++ " column " ++ toString p.column

end RoomConsole.Json
