import RoomConsole.Toml.Value

/-!
# Layered settings

Settings come in layers: built-in defaults, then a TOML file, then
environment variables. Every value remembers the layer it came from, so
that an error about it can say where to look.

Layers are stacked by `Value.merge`: two tables merge key by key, and any
other later value replaces the earlier one. A merged table counts as coming
from the later layer.

An environment variable `PREFIX_A__B` sets the key path `a.b`: the prefix is
matched without regard to ASCII case, the rest is lowered, and a double
underscore separates keys. Its text is read as `true` or `false`, a whole
number, a decimal with a point, a double-quoted string, or else as the text
itself.
-/

namespace RoomConsole.Layered

/-- Where a setting came from. -/
inductive Source where
  /-- The built-in defaults. -/
  | builtin
  /-- A TOML file, by path. -/
  | file (path : String)
  /-- Environment variables with a prefix. -/
  | env (pre : String)
  deriving DecidableEq, Repr, Inhabited

/-- A setting, with the layer it came from. -/
inductive Value where
  | str (src : Source) (s : String)
  | signed (src : Source) (i : Int)
  | unsigned (src : Source) (n : Nat)
  | float (src : Source) (f : Float)
  | bool (src : Source) (b : Bool)
  | list (src : Source) (items : List Value)
  | dict (src : Source) (entries : List (String × Value))
  deriving Inhabited

/-- The layer a setting came from. -/
def Value.source : Value → Source
  | .str src _ | .signed src _ | .unsigned src _ | .float src _ | .bool src _
  | .list src _ | .dict src _ => src

/-- The entry under a key. -/
def lookup (k : String) : List (String × Value) → Option Value
  | [] => none
  | (k', v) :: rest => if k' = k then some v else lookup k rest

mutual

/-- Stack a later setting on an earlier one: tables merge key by key, and
the later table's layer is kept; any other later value wins. -/
def Value.merge (old : Value) : Value → Value
  | .dict src b =>
    match old with
    | .dict _ a => .dict src (Value.mergeInto a b)
    | _ => .dict src b
  | v => v

/-- Stack later entries on earlier ones. -/
def Value.mergeInto (a : List (String × Value)) : List (String × Value) → List (String × Value)
  | [] => a
  | (k, v) :: rest =>
    let a' := match lookup k a with
      | none => a ++ [(k, v)]
      | some old => a.map fun (k', x) => if k' = k then (k', Value.merge old v) else (k', x)
    Value.mergeInto a' rest

end

mutual

/-- A TOML value as a setting of a layer. A date-time reads as a table
holding its text, the way the format hands it over. -/
def Value.ofToml (src : Source) : Toml.Value → Value
  | .string s => .str src s
  | .integer i => .signed src i
  | .float f => .float src f
  | .boolean b => .bool src b
  | .datetime t => .dict src [("datetime", .str src t)]
  | .array xs => .list src (Value.ofTomlItems src xs)
  | .table es => .dict src (Value.ofTomlEntries src es)

/-- TOML array elements as settings. -/
def Value.ofTomlItems (src : Source) : List Toml.Value → List Value
  | [] => []
  | x :: rest => Value.ofToml src x :: Value.ofTomlItems src rest

/-- TOML table entries as settings. -/
def Value.ofTomlEntries (src : Source) : List (String × Toml.Value) → List (String × Value)
  | [] => []
  | (k, x) :: rest => (k, Value.ofToml src x) :: Value.ofTomlEntries src rest

end

/-! ## Environment variables -/

/-- ASCII whitespace. -/
def isAsciiSpace (c : Char) : Bool := c = ' ' || c = '\t' || c = '\n' || c = '\r' || c = '\x0c'

/-- A text without ASCII whitespace at either end. -/
def trimAscii (t : String) : String :=
  String.ofList ((t.toList.dropWhile isAsciiSpace).reverse.dropWhile isAsciiSpace).reverse

/-- The value of a run of decimal digits, when the run is not empty and
holds nothing else. -/
def digitsValue? (cs : List Char) : Option Nat :=
  if cs.isEmpty || !cs.all Char.isDigit then none
  else some (cs.foldl (fun a c => a * 10 + (c.toNat - 48)) 0)

/-- A whole number without sign that fits 64 bits; `+` may lead. -/
def unsignedOf? (cs : List Char) : Option Nat :=
  let body := if cs.head? = some '+' then cs.drop 1 else cs
  (digitsValue? body).bind fun n => if n < Nat.pow 2 64 then some n else none

/-- A whole number that fits 64 signed bits; `+` or `-` may lead. -/
def signedOf? (cs : List Char) : Option Int :=
  match cs with
  | '-' :: body => (digitsValue? body).bind fun n =>
      if n ≤ Nat.pow 2 63 then some (-(n : Int)) else none
  | _ => (unsignedOf? cs).bind fun n => if n < Nat.pow 2 63 then some (n : Int) else none

/-- A decimal with an optional sign, digits around a point (at least one),
and an optional exponent, as the nearest double. -/
def decimalOf? (cs : List Char) : Option Float :=
  let negative := cs.head? = some '-'
  let body := if cs.head? = some '-' || cs.head? = some '+' then cs.drop 1 else cs
  let mant := body.takeWhile fun c => c != 'e' && c != 'E'
  let rest := body.drop mant.length
  let whole := mant.takeWhile Char.isDigit
  let afterWhole := mant.drop whole.length
  let (frac, ok) := match afterWhole with
    | [] => ([], true)
    | '.' :: fs => (fs, fs.all Char.isDigit)
    | _ => ([], false)
  let exp? : Option Int := match rest with
    | [] => some 0
    | _ :: es =>
      match es with
      | '-' :: ds => (digitsValue? ds).map fun n => -(n : Int)
      | '+' :: ds => (digitsValue? ds).map fun n => (n : Int)
      | ds => (digitsValue? ds).map fun n => (n : Int)
  if !ok || (whole.isEmpty && frac.isEmpty) then none
  else exp?.map fun e =>
    let m := (whole ++ frac).foldl (fun a c => a * 10 + (c.toNat - 48)) 0
    let k : Int := e - frac.length
    let x := if k < 0 then Float.ofScientific m true k.natAbs else Float.ofScientific m false k.natAbs
    if negative then -x else x

/-- The rest of a double-quoted text up to its closing quote, escapes
decoded; the quote must end the text. -/
def quotedBody : List Char → List Char → Option String
  | [], _ => none
  | ['"'], acc => some (String.ofList acc.reverse)
  | '"' :: _ :: _, _ => none
  | '\\' :: c :: rest, acc =>
    let d := if c = 'n' then '\n' else if c = 't' then '\t' else if c = 'r' then '\r' else c
    quotedBody rest (d :: acc)
  | c :: rest, acc => quotedBody rest (c :: acc)

/-- A character that ends an unquoted value. -/
def isSeparator (c : Char) : Bool := c = ',' || c = '\x7b' || c = '\x7d' || c = '[' || c = ']'

/-- The setting an environment variable's text stands for. -/
def Value.ofEnvText (src : Source) (text : String) : Value :=
  let t := trimAscii text
  let cs := t.toList
  if t = "true" then .bool src true
  else if t = "false" then .bool src false
  else match cs with
    | '"' :: rest => match quotedBody rest [] with
      | some s => .str src s
      | none => .str src text
    | _ =>
      if cs.any isSeparator || cs.head? = some '\'' then .str src text
      else if cs.contains '.' && (decimalOf? cs).isSome then .float src ((decimalOf? cs).getD 0)
      else match unsignedOf? cs with
        | some n => .unsigned src n
        | none => match signedOf? cs with
          | some i => .signed src i
          | none => .str src t

/-- A setting under a key path: tables down to the last key. -/
def nest (src : Source) (v : Value) : List String → Value
  | [] => v
  | k :: rest => .dict src [(k, nest src v rest)]

/-- A text cut at every double underscore, left to right; `cur` holds the
part read so far, last character first. -/
def splitAtDoubleUnderscores : List Char → List Char → List (List Char)
  | '_' :: '_' :: rest, cur => cur.reverse :: splitAtDoubleUnderscores rest []
  | c :: rest, cur => splitAtDoubleUnderscores rest (c :: cur)
  | [], cur => [cur.reverse]

/-- The key path a variable sets, when its name carries the prefix: the
rest, lowered, split at double underscores and then at dots. -/
def envKeyPath? (pre name : String) : Option (List String) :=
  let n := pre.length
  if name.length ≤ n then none
  else if (name.toList.take n).map Char.toLower != pre.toList.map Char.toLower then none
  else
    let rest := (name.toList.drop n).map Char.toLower
    some (((splitAtDoubleUnderscores rest []).flatMap fun part => part.splitOn '.').map String.ofList)

/-- The layer of the environment variables that carry a prefix. -/
def Value.ofEnv (pre : String) (vars : List (String × String)) : Value :=
  let src := Source.env pre
  vars.foldl (fun acc (name, text) =>
    match envKeyPath? pre name with
    | some path => acc.merge (nest src (Value.ofEnvText src text) path)
    | none => acc) (.dict src [])

end RoomConsole.Layered
