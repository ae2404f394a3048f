import RoomConsole.Json.Scan

/-!
# Reading JSON text at a cursor

A `Reader` runs at a cursor into the text and keeps the cursor where it
stopped, also when it fails: what follows a failure inside a container (the
container's end is still looked for) moves the cursor, and a refusal that has
no place yet is placed where the cursor then stands (`placed`). Refusals of
the data (a wrong kind, a missing field) are raised without a place by
`refuse`; faults of the text carry theirs.

Containers nest at most 127 deep: the cursor counts the depth still allowed,
and opening a container with none left is an error at its bracket.
-/

namespace RoomConsole.Json

/-- A position in JSON text and the nesting still allowed there. -/
structure Cursor where
  bytes : ByteArray
  pos : Nat
  depth : Nat := 128

/-- The cursor at the start of a text. -/
def Cursor.ofString (text : String) : Cursor := { bytes := text.toUTF8, pos := 0 }

/-- Reading at a cursor, failing with an error and keeping the cursor. -/
abbrev Reader := EStateM Error Cursor

namespace Reader

/-- Run a scanner at the cursor. -/
def lift {α : Type} (scan : ByteArray → Nat → Scan α) : Reader α := fun c =>
  match scan c.bytes c.pos with
  | .ok (a, i) => .ok a { c with pos := i }
  | .error s => .error (s.toError c.bytes) { c with pos := s.stop }

/-- The byte at the cursor, if any. -/
def peek : Reader (Option UInt8) := fun c => .ok c.bytes[c.pos]? c

/-- Move past blanks; the byte after them, if any. -/
def blanks : Reader (Option UInt8) := fun c =>
  let j := skipBlanks c.bytes c.pos
  .ok c.bytes[j]? { c with pos := j }

/-- Take one byte. -/
def eat : Reader Unit := fun c => .ok () { c with pos := c.pos + 1 }

/-- Fail with a fault placed at the cursor. -/
def fail {α : Type} (f : Fault) : Reader α := fun c =>
  .error { fault := f, position := some (Position.ofIndex c.bytes c.pos) } c

/-- Fail with a fault seen on looking at the byte at the cursor. -/
def failPeek {α : Type} (f : Fault) : Reader α := fun c =>
  .error { fault := f, position := some (Position.ofIndex c.bytes (peekIndex c.bytes c.pos)) } c

/-- Refuse the data, with no place yet. -/
def refuse {α : Type} (f : Fault) : Reader α := fun c => .error { fault := f } c

/-- Run a reader, placing an unplaced refusal where the cursor stops. -/
def placed {α : Type} (r : Reader α) : Reader α := fun c =>
  match r c with
  | .ok a c' => .ok a c'
  | .error e c' =>
    match e.position with
    | some _ => .error e c'
    | none => .error { e with position := some (Position.ofIndex c'.bytes c'.pos) } c'

/-- The first byte of a value, after blanks; the end of the text is an error. -/
def valueStart : Reader UInt8 := do
  match ← blanks with
  | some b => pure b
  | none => failPeek .eofInValue

/-- A number whose first byte is at the cursor: a sign or a digit. -/
def number (first : UInt8) : Reader Number :=
  if first = 0x2D then do eat; lift fun bs i => scanNumber bs false i
  else lift fun bs i => scanNumber bs true i

/-- A string whose opening quote is at the cursor. -/
def string : Reader String := do
  eat
  lift scanString

/-- The rest of `null`, `true` or `false` after the first letter at the cursor. -/
def ident (rest : List UInt8) : Reader Unit := do
  eat
  lift fun bs i => scanIdent bs i rest

/-- Refuse the value at the cursor as of the wrong kind: it is read first
(so a fault inside it wins), then named in the refusal. -/
def invalidType {α : Type} (expecting : String) : Reader α := placed do
  let b := (← peek).getD 0
  if b = 0x6E then do ident ullBytes; refuse (.invalidType .null expecting)
  else if b = 0x74 then do ident rueBytes; refuse (.invalidType (.bool true) expecting)
  else if b = 0x66 then do ident alseBytes; refuse (.invalidType (.bool false) expecting)
  else if b = 0x2D || isDigit b then do
    let n ← number b
    refuse (.invalidType n.unexpected expecting)
  else if b = 0x22 then do
    let s ← string
    refuse (.invalidType (.str s) expecting)
  else if b = 0x5B then refuse (.invalidType .seq expecting)
  else if b = 0x7B then refuse (.invalidType .map expecting)
  else failPeek .expectedValue

/-- Open a container at the cursor, read its contents with `body`, then its
end with `close`. The end is looked for also when `body` fails; the first
failure wins. -/
def nested {α : Type} (body : Reader α) (close : Reader Unit) : Reader α := fun c =>
  if c.depth - 1 = 0 then
    .error { fault := .recursionLimit,
             position := some (Position.ofIndex c.bytes (peekIndex c.bytes c.pos)) } c
  else
    let inner : Cursor := { c with pos := c.pos + 1, depth := c.depth - 1 }
    match body inner with
    | .ok a c₁ =>
      match close c₁ with
      | .ok () c₂ => .ok a { c₂ with depth := c.depth }
      | .error e c₂ => .error e { c₂ with depth := c.depth }
    | .error e c₁ =>
      match close c₁ with
      | .ok () c₂ => .error e { c₂ with depth := c.depth }
      | .error _ c₂ => .error e { c₂ with depth := c.depth }

/-- Whether another item follows in a list. -/
def nextItem (first : Bool) : Reader Bool := lift fun bs i => scanNextItem bs first i

/-- Whether another member follows in an object. -/
def nextKey (first : Bool) : Reader Bool := lift fun bs i => scanNextKey bs first i

/-- The colon after a key. -/
def colon : Reader Unit := lift scanColon

/-- Skip a value. -/
def skip : Reader Unit := lift skipValue

/-- The end of a list. -/
def listEnd : Reader Unit := lift scanListEnd

/-- The end of an object. -/
def objectEnd : Reader Unit := lift scanObjectEnd

/-- Fuel for a loop that takes at least one byte a round. -/
def remaining : Reader Nat := fun c => .ok (c.bytes.size - c.pos + 1) c

/-- The items of a list up to its closing bracket. -/
def itemsLoop {α : Type} (item : Reader α) : Nat → Bool → List α → Reader (List α)
  | 0, _, acc => pure acc.reverse
  | fuel + 1, first, acc => do
    if ← nextItem first then
      let a ← item
      itemsLoop item fuel false (a :: acc)
    else pure acc.reverse

/-- The items of a list whose bracket was taken. -/
def items {α : Type} (item : Reader α) : Reader (List α) := do
  itemsLoop item (← remaining) true []

/-- The members of an object up to its closing brace, in text order. -/
def membersLoop {α : Type} (value : Reader α) : Nat → Bool → List (String × α) →
    Reader (List (String × α))
  | 0, _, acc => pure acc.reverse
  | fuel + 1, first, acc => do
    if ← nextKey first then
      let k ← string
      colon
      let v ← value
      membersLoop value fuel false ((k, v) :: acc)
    else pure acc.reverse

/-- The members of an object whose brace was taken. -/
def members {α : Type} (value : Reader α) : Reader (List (String × α)) := do
  membersLoop value (← remaining) true []

/-- Any value, objects keeping their members in text order, repeated keys
included; `fuel` bounds the nesting. -/
def anyValue : Nat → Reader Json
  | 0 => failPeek .recursionLimit
  | fuel + 1 => placed do
    let b ← valueStart
    if b = 0x6E then do ident ullBytes; pure .null
    else if b = 0x74 then do ident rueBytes; pure (.bool true)
    else if b = 0x66 then do ident alseBytes; pure (.bool false)
    else if b = 0x2D || isDigit b then .num <$> number b
    else if b = 0x22 then .str <$> string
    else if b = 0x5B then .arr <$> nested (items (anyValue fuel)) listEnd
    else if b = 0x7B then .obj <$> nested (members (anyValue fuel)) objectEnd
    else failPeek .expectedValue

/-- Any value at the cursor, in text order. -/
def raw : Reader Json := fun c => anyValue c.depth c

/-- Only blanks may follow the value. -/
def finish : Reader Unit := do
  match ← blanks with
  | some _ => failPeek .trailingCharacters
  | none => pure ()

/-- Read a whole text; a refusal with no place is placed where reading stopped. -/
def run {α : Type} (r : Reader α) (text : String) : Except Error α :=
  match placed (do let a ← r; finish; pure a) (Cursor.ofString text) with
  | .ok a _ => .ok a
  | .error e _ => .error e

end Reader

/-- Read a JSON document, objects sorted by key with the last of a repeated
key winning. -/
def parse (text : String) : Except Error Json :=
  Reader.run (Json.normalize <$> Reader.raw) text

end RoomConsole.Json
