import RoomConsole.Toml.Value
import RoomConsole.Text.Literal
import RoomConsole.Number.Shortest

/-!
# Writing TOML

`Document.render` writes a table as a TOML document: the values of the top
table first, one `key = value` per line, then every nested table under its
own `[header]` in depth-first order, a blank line before each header that
follows anything. A table whose entries are all tables gets no header of its
own, since its children's headers name it; an empty table keeps its header.

Keys are bare where they can be, quoted otherwise. A string is written in
the first form that holds it without escapes: a text with a backslash and
nothing that a literal string cannot hold goes between apostrophes (three
when it holds an apostrophe); otherwise it goes between double quotes with
escapes, and a text with a line break spans lines between three of them.
-/

namespace RoomConsole.Toml

/-- How a string is written. -/
inductive Quoting where
  /-- One line between single delimiters. -/
  | single
  /-- One line between triple delimiters. -/
  | triple
  /-- Triple delimiters with a line break after the opening ones. -/
  | lines
  deriving DecidableEq

/-- What a scan of a string decides: its quoting and whether it is written
literally. -/
structure StringForm where
  quoting : Quoting := .single
  longestRun : Nat := 0
  run : Nat := 0
  preferLiteral : Bool := false
  literalOk : Bool := true

/-- One character of the scan. -/
def StringForm.step (f : StringForm) (c : Char) : StringForm :=
  if f.literalOk then
    let f :=
      if c = '\'' then
        { f with run := f.run + 1, literalOk := f.run + 1 < 3 }
      else { f with longestRun := max f.longestRun f.run, run := 0 }
    if c = '\t' then f
    else if c = '\\' then { f with preferLiteral := true }
    else if c = '\n' then { f with quoting := .lines }
    else if c.toNat ≤ 0x1F then { f with literalOk := false }
    else f
  else if c = '\n' then { f with quoting := .lines } else f

/-- The form a string is written in: its quoting, and whether literally. -/
def stringForm (v : String) : Quoting × Bool :=
  let f := v.toList.foldl StringForm.step {}
  let literalOk := f.literalOk && !(f.run > 0 && v.back = '\'') && f.preferLiteral
  if !literalOk then (f.quoting, false)
  else
    let longest := max f.longestRun f.run
    if f.quoting = .single && longest ≥ 1 then (.triple, true) else (f.quoting, true)

/-- Four upper-case hexadecimal digits. -/
def hex4 (n : Nat) : String :=
  let ds := (Nat.toDigits 16 n).map Char.toUpper
  String.ofList (List.replicate (4 - ds.length) '0' ++ ds)

/-- One character inside double quotes. -/
def escapeChar (quoting : Quoting) (c : Char) : String :=
  if c = '\x08' then "\\b"
  else if c = '\t' then "\\t"
  else if c = '\n' then (if quoting = .lines then "\n" else "\\n")
  else if c = '\x0c' then "\\f"
  else if c = '\r' then "\\r"
  else if c = '"' then "\\\""
  else if c = '\\' then "\\\\"
  else if c.toNat ≤ 0x1F || c.toNat = 0x7F then "\\u" ++ hex4 c.toNat
  else String.singleton c

/-- A string in the given form. -/
def quoteAs (quoting : Quoting) (literal : Bool) (v : String) : String :=
  if literal then
    match quoting with
    | .single => "'" ++ v ++ "'"
    | .triple => "'''" ++ v ++ "'''"
    | .lines => "'''\n" ++ v ++ "'''"
  else
    let body := String.join (v.toList.map (escapeChar quoting))
    match quoting with
    | .single => "\"" ++ body ++ "\""
    | _ => "\"\"\"\n" ++ body ++ "\"\"\""

/-- A string value as written. -/
def quoteString (v : String) : String :=
  let (q, literal) := stringForm v
  quoteAs q literal v

/-- A key as written: bare when it can be, otherwise on one line in double
quotes. -/
def quoteKey (k : String) : String := if isBareKey k then k else quoteAs .single false k

/-- A float as written: `nan`, `inf`, a point kept on whole numbers. -/
def floatText (f : Float) : String :=
  if f.isNaN then (if f.toBits ≥ 0x8000000000000000 then "-nan" else "nan")
  else
    let t := Number.Style.ofFloat { maxPositional := 400, maxLeadingZeros := 400 } f
    t

mutual

/-- A value as written after its key. -/
def Value.written : Value → String
  | .string s => quoteString s
  | .integer i => toString i
  | .float f => floatText f
  | .boolean b => if b then "true" else "false"
  | .datetime t => t
  | .array items => "[" ++ Value.writtenItems items ++ "]"
  | .table es => "\x7b " ++ Value.writtenEntries es ++ " \x7d"

/-- Array elements, separated by commas. -/
def Value.writtenItems : List Value → String
  | [] => ""
  | [v] => v.written
  | v :: rest => v.written ++ ", " ++ Value.writtenItems rest

/-- Inline table entries, separated by commas. -/
def Value.writtenEntries : List (String × Value) → String
  | [] => ""
  | [(k, v)] => quoteKey k ++ " = " ++ v.written
  | (k, v) :: rest => quoteKey k ++ " = " ++ v.written ++ ", " ++ Value.writtenEntries rest

end

/-- Whether a value is a table, written under a header of its own. -/
def Value.isTable : Value → Bool
  | .table _ => true
  | _ => false

mutual

/-- The nested tables of a value bound to `k` under `path`: its own table
first, then the tables inside it. -/
def Value.tablesAt (path : List String) (k : String) : Value → List (List String × List (String × Value))
  | .table es => (path ++ [k], es) :: nestedTables (path ++ [k]) es
  | _ => []

/-- The nested tables of a table with their paths, in depth-first order. -/
def nestedTables (path : List String) : List (String × Value) → List (List String × List (String × Value))
  | [] => []
  | (k, v) :: rest => v.tablesAt path k ++ nestedTables path rest

end

/-- The `key = value` lines of a table's values. -/
def valueLines (entries : List (String × Value)) : String :=
  String.join ((entries.filter fun e => !e.2.isTable).map fun (k, v) => quoteKey k ++ " = " ++ v.written ++ "\n")

/-- A table as a TOML document. -/
def Document.render (doc : List (String × Value)) : String :=
  let top := valueLines doc
  let step (acc : String × Bool) (t : List String × List (String × Value)) : String × Bool :=
    let (text, first) := acc
    let (path, es) := t
    let body := valueLines es
    if body.isEmpty && !es.isEmpty then acc
    else
      (text ++ (if first then "" else "\n") ++ "[" ++ ".".intercalate (path.map quoteKey) ++ "]\n" ++ body,
        false)
  ((nestedTables [] doc).foldl step (top, top.isEmpty)).1

end RoomConsole.Toml
