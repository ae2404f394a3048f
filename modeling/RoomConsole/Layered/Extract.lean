import RoomConsole.Layered.Value
import RoomConsole.Text.Literal
import RoomConsole.Number.Shortest

/-!
# Reading typed settings out of layers

An `Extract α` reads a value of type `α` from a setting at a key path. A
fault names what was found and what was expected, the key path, and the
layer the offending setting came from: for a missing field, the table that
lacks it.

A record reads the entries of its table in key order and stops at the first
fault; fields it does not know are skipped. Only then are required fields
that did not appear reported, in the order the record lists them.
-/

namespace RoomConsole.Layered

/-- What is wrong with a setting. -/
inductive Problem where
  /-- A setting of the wrong kind: what was found, and what was expected. -/
  | invalidType (found expected : String)
  /-- A setting of the right kind out of range. -/
  | invalidValue (found expected : String)
  | missingField (name : String)
  /-- A layer that could not be read at all. -/
  | unreadable (message : String)
  deriving DecidableEq, Repr

/-- The text of a problem. -/
def Problem.text : Problem → String
  | .invalidType found expected => "invalid type: found " ++ found ++ ", expected " ++ expected
  | .invalidValue found expected => "invalid value " ++ found ++ ", expected " ++ expected
  | .missingField name => "missing field `" ++ name ++ "`"
  | .unreadable message => message

/-- A problem, where it sits, and the layer it came from. -/
structure Fault where
  problem : Problem
  path : List String := []
  source : Source
  deriving DecidableEq, Repr

/-- ASCII letters raised. -/
def upperAscii (s : String) : String := String.ofList (s.toList.map Char.toUpper)

/-- How a layer names a key path: a file's keys sit under the profile
`default`; environment keys are written in capitals. -/
def Source.keyName (src : Source) (path : List String) : String :=
  match src with
  | .env _ => ".".intercalate (path.map upperAscii)
  | _ => "default." ++ ".".intercalate path

/-- How a layer is named in a fault. -/
def Source.describe : Source → String
  | .builtin => "built-in defaults"
  | .file path => path ++ " TOML file"
  | .env pre => "`" ++ pre ++ "` environment variable(s)"

/-- The text of a fault: the problem, the key when there is one, and the
layer. -/
def Fault.text (f : Fault) : String :=
  f.problem.text
    ++ (if f.path.isEmpty then "" else " for key " ++ Text.literal (f.source.keyName f.path))
    ++ " in " ++ f.source.describe

/-- A double as a plain decimal: never an exponent, no point on a whole
number. -/
def plainDecimal (f : Float) : String :=
  let t := Number.Style.ofFloat { maxPositional := 400, maxLeadingZeros := 400 } f
  if t.endsWith ".0" then String.ofList (t.toList.take (t.length - 2)) else t

/-- How a fault describes a setting it found. -/
def Value.found : Value → String
  | .str _ s => "string " ++ Text.literal s
  | .signed _ i => "signed int `" ++ toString i ++ "`"
  | .unsigned _ n => "unsigned int `" ++ toString n ++ "`"
  | .float _ f => "float `" ++ plainDecimal f ++ "`"
  | .bool _ b => "bool " ++ (if b then "true" else "false")
  | .list _ _ => "sequence"
  | .dict _ _ => "map"

/-- Reads a value of type `α` from a setting at a key path. -/
abbrev Extract (α : Type) := List String → Value → Except Fault α

/-- The fault of a setting of the wrong kind. -/
def mismatch {α : Type} (expected : String) (path : List String) (v : Value) : Except Fault α :=
  .error { problem := .invalidType v.found expected, path, source := v.source }

/-- A string. -/
def Extract.string : Extract String := fun path v =>
  match v with
  | .str _ s => .ok s
  | _ => mismatch "a string" path v

/-- A file path, written as a string. -/
def Extract.filePath : Extract String := fun path v =>
  match v with
  | .str _ s => .ok s
  | _ => mismatch "path string" path v

/-- A whole number that fits 64 bits. -/
def Extract.u64 : Extract Nat := fun path v =>
  match v with
  | .unsigned _ n => .ok n
  | .signed src i =>
    if 0 ≤ i then .ok i.toNat
    else .error { problem := .invalidValue v.found "u64", path, source := src }
  | _ => mismatch "u64" path v

/-- A boolean. -/
def Extract.bool : Extract Bool := fun path v =>
  match v with
  | .bool _ b => .ok b
  | _ => mismatch "a boolean" path v

/-- A value that may be absent: present settings are read in full. -/
def Extract.option {α : Type} (e : Extract α) : Extract (Option α) := fun path v =>
  (e path v).map some

/-- Put an entry before the first of a sorted list whose key is not
smaller than its own. -/
def insertByKey (e : String × Value) : List (String × Value) → List (String × Value)
  | [] => [e]
  | x :: xs => if x.1 < e.1 then x :: insertByKey e xs else e :: x :: xs

/-- Entries in key order; entries of one key stay in their order. -/
def byKey (entries : List (String × Value)) : List (String × Value) :=
  entries.foldr insertByKey []

/-- A table of values keyed by name, in key order. -/
def Extract.map {α : Type} (e : Extract α) : Extract (List (String × α)) := fun path v =>
  match v with
  | .dict _ entries => (byKey entries).mapM fun (k, x) => (e (path ++ [k]) x).map fun a => (k, a)
  | _ => mismatch "a map" path v

/-- One field of a record: its key, whether it must appear, and how its
setting updates the record. -/
structure Field (α : Type) where
  name : String
  required : Bool := false
  read : List String → Value → α → Except Fault α

/-- A field read by an extractor and stored by `set`. -/
def Field.of {α β : Type} (name : String) (e : Extract β) (set : β → α → α)
    (required : Bool := false) : Field α :=
  { name, required, read := fun path v r => (e path v).map fun b => set b r }

/-- A record named `name`: fields start at `init` and take the settings
that appear; unknown keys are skipped. -/
def Extract.record {α : Type} (name : String) (init : α) (fields : List (Field α)) : Extract α :=
  fun path v =>
    match v with
    | .dict src entries => do
      let r ← (byKey entries).foldlM (fun r (k, x) =>
          match fields.find? (·.name == k) with
          | some f => f.read (path ++ [k]) x r
          | none => .ok r) init
      match fields.find? fun f => f.required && (lookup f.name entries).isNone with
      | some f => .error { problem := .missingField f.name, path, source := src }
      | none => .ok r
    | _ => mismatch ("struct " ++ name) path v

end RoomConsole.Layered
