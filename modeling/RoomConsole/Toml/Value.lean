/-!
# TOML values

A TOML document is a table: keys bound to strings, 64-bit integers, floats,
booleans, date-times, arrays and nested tables. A date-time is kept as the
text it was written with; nothing in this program reads inside one.

Tables are association lists. The order of their entries is the order of
insertion and carries no meaning for a reader of the document; writers that
care about order take it from the data they write.
-/

namespace RoomConsole.Toml

/-- A TOML value. -/
inductive Value where
  | string (s : String)
  | integer (i : Int)
  | float (f : Float)
  | boolean (b : Bool)
  | datetime (text : String)
  | array (items : List Value)
  | table (entries : List (String × Value))
  deriving Inhabited

/-- The name of a value's type, as errors about a value's type call it. -/
def Value.typeName : Value → String
  | .string _ => "string"
  | .integer _ => "integer"
  | .float _ => "float"
  | .boolean _ => "boolean"
  | .datetime _ => "datetime"
  | .array _ => "array"
  | .table _ => "inline table"

/-- The least integer a TOML integer may be. -/
def minInteger : Int := -(Nat.pow 2 63 : Int)

/-- The greatest integer a TOML integer may be. -/
def maxInteger : Int := (Nat.pow 2 63 : Int) - 1

/-- A character of a bare key: an ASCII letter or digit, `_` or `-`. -/
def isBareKeyChar (c : Char) : Bool := c.isAlphanum || c = '_' || c = '-'

/-- A key can be written bare: it is not empty and every character may stand
in a bare key. -/
def isBareKey (k : String) : Bool := !k.isEmpty && k.toList.all isBareKeyChar

end RoomConsole.Toml
