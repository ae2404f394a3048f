import RoomConsole.Json.Value
import RoomConsole.Number.Shortest

/-!
# Writing JSON text

Compact text has no blanks at all; pretty text puts every member and item on
a line of its own, indented by two spaces per level, with `": "` after a key
and empty containers written `[]` and `{}`.

Strings escape the quote, the backslash and every control character below
U+0020: `\b \t \n \f \r` by their letters, the others as `\u00xx` with
lower-case hex digits. Nothing else is escaped, so non-ASCII text is written
as it is.
-/

namespace RoomConsole.Json

/-- The escape for one character inside a string literal. -/
def escapeChar (c : Char) : String :=
  if c = '"' then "\\\""
  else if c = '\\' then "\\\\"
  else if c.toNat = 0x08 then "\\b"
  else if c.toNat = 0x09 then "\\t"
  else if c.toNat = 0x0A then "\\n"
  else if c.toNat = 0x0C then "\\f"
  else if c.toNat = 0x0D then "\\r"
  else if c.toNat < 0x20 then
    let hex := "0123456789abcdef".toList
    "\\u00" ++ String.ofList [hex.getD (c.toNat / 16) '0', hex.getD (c.toNat % 16) '0']
  else String.singleton c

/-- A string literal. -/
def quote (s : String) : String :=
  "\"" ++ String.join (s.toList.map escapeChar) ++ "\""

/-- The text of a number. -/
def Number.text : Number → String
  | .natural n => toString n
  | .negative n => toString n
  | .float f => if f.isNaN || f.isInf then "null" else Number.Style.diagnostic.ofFloat f

section

mutual
/-- Compact JSON text. -/
def compact : Json → String
  | .null => "null"
  | .bool b => if b then "true" else "false"
  | .num n => n.text
  | .str s => quote s
  | .arr items => "[" ++ compactItems items ++ "]"
  | .obj members => "\x7b" ++ compactMembers members ++ "\x7d"

/-- Compact items, comma separated. -/
def compactItems : List Json → String
  | [] => ""
  | [x] => compact x
  | x :: rest => compact x ++ "," ++ compactItems rest

/-- Compact members, comma separated. -/
def compactMembers : List (String × Json) → String
  | [] => ""
  | [(k, v)] => quote k ++ ":" ++ compact v
  | (k, v) :: rest => quote k ++ ":" ++ compact v ++ "," ++ compactMembers rest
end

/-- The blanks that indent a line at a depth. -/
def indent (depth : Nat) : String := String.ofList (List.replicate (2 * depth) ' ')

mutual
/-- Pretty JSON text at an indentation depth. -/
def prettyAt (depth : Nat) : Json → String
  | .arr [] => "[]"
  | .obj [] => "\x7b\x7d"
  | .arr items => "[\n" ++ prettyItems (depth + 1) items ++ "\n" ++ indent depth ++ "]"
  | .obj members => "\x7b\n" ++ prettyMembers (depth + 1) members ++ "\n" ++ indent depth ++ "\x7d"
  | .null => "null"
  | .bool b => if b then "true" else "false"
  | .num n => n.text
  | .str s => quote s

/-- Pretty items, one a line. -/
def prettyItems (depth : Nat) : List Json → String
  | [] => ""
  | [x] => indent depth ++ prettyAt depth x
  | x :: rest => indent depth ++ prettyAt depth x ++ ",\n" ++ prettyItems depth rest

/-- Pretty members, one a line. -/
def prettyMembers (depth : Nat) : List (String × Json) → String
  | [] => ""
  | [(k, v)] => indent depth ++ quote k ++ ": " ++ prettyAt depth v
  | (k, v) :: rest => indent depth ++ quote k ++ ": " ++ prettyAt depth v ++ ",\n" ++ prettyMembers depth rest
end

/-- Pretty JSON text. -/
def pretty (j : Json) : String := prettyAt 0 j

end

end RoomConsole.Json
