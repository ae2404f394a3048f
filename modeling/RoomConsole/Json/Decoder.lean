import RoomConsole.Json.Reader

/-!
# Typed decoders

A `Decoder α` reads values of type `α` in two ways: from JSON text at a
cursor, where faults carry their place, and from a document already read,
where they carry none. Both ways take the same decisions, so a document and
its text decode alike except for places.

The decoders for the shapes of data are:

* `string`, `bool`, `natural` (a whole number up to a bound) and `integer`;
* `option`: `null` is absent, anything else is the value;
* `list` and `map` (string keys; a repeated key keeps its last value);
* `record`: an object of named fields, or a list of the fields in order.
  Unknown names are skipped, a name given twice is refused, a missing
  field is refused unless it has a default or is optional;
* `variants`: a name among a fixed set, written as a string or as an object
  with that name as its only key and `null` as its value.

A refusal inside a container is placed where reading stopped after looking
for the container's end; so a missing field is reported after the closing
brace, and a repeated name after the blanks that follow the name.
-/

namespace RoomConsole.Json

/-- Reading values of type `α` from text and from documents. -/
structure Decoder (α : Type) where
  /-- How refusals name what was expected. -/
  expecting : String
  /-- Reading at a cursor. -/
  read : Reader α
  /-- Reading a document. -/
  ofJson : Json → Except Fault α

namespace Decoder

open Reader

/-- Decode a whole text. -/
def decode {α : Type} (d : Decoder α) (text : String) : Except Error α := Reader.run d.read text

/-- Decode a document. -/
def decodeJson {α : Type} (d : Decoder α) (j : Json) : Except Fault α := d.ofJson j

/-- Text decoded to a string, then checked by `f`; a refusal of `f` is a
custom message. -/
def stringWith {α : Type} (expecting : String) (f : String → Except String α) : Decoder α where
  expecting := expecting
  read := placed do
    let b ← valueStart
    if b = 0x22 then do
      match f (← string) with
      | .ok a => pure a
      | .error m => refuse (.custom m)
    else invalidType expecting
  ofJson
    | .str s => match f s with
      | .ok a => .ok a
      | .error m => .error (.custom m)
    | j => .error (.invalidType j.unexpected expecting)

/-- A string. -/
def string : Decoder String := stringWith "a string" .ok

/-- A boolean. -/
def bool : Decoder Bool where
  expecting := "a boolean"
  read := placed do
    let b ← valueStart
    if b = 0x74 then do ident rueBytes; pure true
    else if b = 0x66 then do ident alseBytes; pure false
    else invalidType "a boolean"
  ofJson
    | .bool b => .ok b
    | j => .error (.invalidType j.unexpected "a boolean")

/-- A number accepted by `visit`, named `name` in refusals. -/
def numeric {α : Type} (name : String) (visit : Number → Except Fault α) : Decoder α where
  expecting := name
  read := placed do
    let b ← valueStart
    if b = 0x2D || isDigit b then do
      match visit (← number b) with
      | .ok a => pure a
      | .error f => refuse f
    else invalidType name
  ofJson
    | .num n => visit n
    | j => .error (.invalidType j.unexpected name)

/-- A whole number from 0 to `max`. -/
def natural (name : String) (max : Nat) : Decoder Nat :=
  numeric name fun
    | .natural n => if n ≤ max then .ok n else .error (.invalidValue (.unsigned n) name)
    | .negative n => .error (.invalidValue (.signed n) name)
    | .float f => .error (.invalidType (.float f) name)

/-- A 16-bit unsigned number. -/
def u16 : Decoder Nat := natural "u16" 65535

/-- A 32-bit unsigned number. -/
def u32 : Decoder Nat := natural "u32" 4294967295

/-- A 64-bit unsigned number. -/
def u64 : Decoder Nat := natural "u64" maxU64

/-- A 64-bit signed number. -/
def i64 : Decoder Int :=
  numeric "i64" fun
    | .natural n => if n < Nat.pow 2 63 then .ok n else .error (.invalidValue (.unsigned n) "i64")
    | .negative n => .ok n
    | .float f => .error (.invalidType (.float f) "i64")

/-- An optional value: `null` is absent. -/
def option {α : Type} (d : Decoder α) : Decoder (Option α) where
  expecting := "option"
  read := do
    match ← blanks with
    | some 0x6E => do ident ullBytes; pure none
    | _ => some <$> d.read
  ofJson
    | .null => .ok none
    | j => some <$> d.ofJson j

/-- A list of values. -/
def list {α : Type} (d : Decoder α) : Decoder (List α) where
  expecting := "a sequence"
  read := placed do
    let b ← valueStart
    if b = 0x5B then nested (items d.read) listEnd
    else invalidType "a sequence"
  ofJson
    | .arr xs => xs.mapM d.ofJson
    | j => .error (.invalidType j.unexpected "a sequence")

/-- Insert into a list sorted by key; a key already present takes the new value. -/
def insertByKey {α : Type} (k : String) (v : α) : List (String × α) → List (String × α)
  | [] => [(k, v)]
  | (k', v') :: rest =>
    if k = k' then (k, v) :: rest
    else if k < k' then (k, v) :: (k', v') :: rest
    else (k', v') :: insertByKey k v rest

/-- Members sorted by key, the last of a repeated key winning. -/
def byKey {α : Type} (members : List (String × α)) : List (String × α) :=
  members.foldl (fun acc (k, v) => insertByKey k v acc) []

/-- A map from strings to values, sorted by key; a repeated key keeps its
last value. -/
def map {α : Type} (d : Decoder α) : Decoder (List (String × α)) where
  expecting := "a map"
  read := placed do
    let b ← valueStart
    if b = 0x7B then byKey <$> nested (members d.read) objectEnd
    else invalidType "a map"
  ofJson
    | .obj ms => byKey <$> ms.mapM fun (k, v) => (k, ·) <$> d.ofJson v
    | j => .error (.invalidType j.unexpected "a map")

/-- Any document, objects sorted by key. -/
def json : Decoder Json where
  expecting := "any valid JSON value"
  read := Json.normalize <$> raw
  ofJson := .ok

/-- Whether a record field may be missing. -/
inductive Presence where
  /-- Missing is refused. -/
  | required
  /-- It may be missing from an object, and is then absent; a list of
  fields must still hold it. -/
  | optional
  /-- It may be missing anywhere, and keeps its default. -/
  | defaulted
  deriving DecidableEq

/-- A field of a record of type `σ`: its name, whether it may be missing,
and how its value updates the record. -/
structure Field (σ : Type) where
  name : String
  presence : Presence
  read : Reader (σ → σ)
  ofJson : Json → Except Fault (σ → σ)

/-- The field `name` decoded by `d` and stored by `set`. -/
def field {σ β : Type} (name : String) (presence : Presence) (d : Decoder β) (set : β → σ → σ) :
    Field σ where
  name := name
  presence := presence
  read := set <$> d.read
  ofJson j := set <$> d.ofJson j

/-- The first field that is missing and may not be. -/
def firstMissing {σ : Type} (fields : List (Field σ)) (seen : List String) : Option String :=
  (fields.find? fun f => f.presence = .required && !seen.contains f.name).map (·.name)

/-- The fields in order from a list, `i` of them read so far. -/
def recordItems {σ : Type} (lengthText : String) : List (Field σ) → Nat → Bool → σ → Reader σ
  | [], _, _, s => pure s
  | f :: rest, i, first, s => do
    if ← nextItem first then
      let g ← f.read
      recordItems lengthText rest (i + 1) false (g s)
    else if f.presence = .defaulted then recordItems lengthText rest (i + 1) first s
    else refuse (.invalidLength i lengthText)

/-- The members of a record's object, `seen` naming the fields read. -/
def recordMembers {σ : Type} (fields : List (Field σ)) : Nat → Bool → List String → σ →
    Reader (σ × List String)
  | 0, _, seen, s => pure (s, seen)
  | fuel + 1, first, seen, s => do
    if ← nextKey first then
      let k ← Reader.string
      match fields.find? (·.name == k) with
      | some f =>
        if seen.contains k then refuse (.duplicateField k)
        else do
          colon
          let g ← f.read
          recordMembers fields fuel false (k :: seen) (g s)
      | none => do
        colon
        skip
        recordMembers fields fuel false seen s
    else pure (s, seen)

/-- The fields in order from a list of documents, `i` of them read so far. -/
def recordItemsJson {σ : Type} (lengthText : String) (total : Nat) :
    List (Field σ) → List Json → Nat → σ → Except Fault σ
  | [], [], _, s => .ok s
  | [], _ :: _, _, _ => .error (.invalidLength total "fewer elements in array")
  | f :: rest, x :: xs, i, s => do
    let g ← f.ofJson x
    recordItemsJson lengthText total rest xs (i + 1) (g s)
  | f :: rest, [], i, s =>
    if f.presence = .defaulted then recordItemsJson lengthText total rest [] (i + 1) s
    else .error (.invalidLength i lengthText)

/-- The members of a record's document. -/
def recordMembersJson {σ : Type} (fields : List (Field σ)) :
    List (String × Json) → List String → σ → Except Fault (σ × List String)
  | [], seen, s => .ok (s, seen)
  | (k, v) :: rest, seen, s =>
    match fields.find? (·.name == k) with
    | some f =>
      if seen.contains k then .error (.duplicateField k)
      else do
        let g ← f.ofJson v
        recordMembersJson fields rest (k :: seen) (g s)
    | none => recordMembersJson fields rest seen s

/-- A record named `name`, built from `init` by its fields. -/
def record {σ : Type} (name : String) (init : σ) (fields : List (Field σ)) : Decoder σ :=
  let expecting := "struct " ++ name
  let lengthText := expecting ++ " with " ++ toString fields.length ++ " elements"
  let complete (r : σ × List String) : Except Fault σ :=
    match firstMissing fields r.2 with
    | some n => .error (.missingField n)
    | none => .ok r.1
  { expecting := expecting
    read := placed do
      let b ← valueStart
      if b = 0x5B then nested (recordItems lengthText fields 0 true init) listEnd
      else if b = 0x7B then
        nested (do
          let r ← recordMembers fields (← remaining) true [] init
          match complete r with
          | .ok s => pure s
          | .error f => refuse f) objectEnd
      else invalidType expecting
    ofJson := fun
      | .arr xs => recordItemsJson lengthText xs.length fields xs 0 init
      | .obj ms => recordMembersJson fields ms [] init >>= complete
      | j => .error (.invalidType j.unexpected expecting) }

/-- A name among `table`, or the refusal naming them all. -/
def lookupVariant {α : Type} (table : List (String × α)) (name : String) : Except String α :=
  match table.find? (·.1 == name) with
  | some (_, a) => .ok a
  | none => .error (Fault.unknownVariant name (table.map (·.1))).message

/-- The unit value `null`. -/
def unit : Decoder Unit where
  expecting := "unit"
  read := placed do
    let b ← valueStart
    if b = 0x6E then ident ullBytes else invalidType "unit"
  ofJson
    | .null => .ok ()
    | j => .error (.invalidType j.unexpected "unit")

/-- One of the names of `table`: a string, or an object whose only key is
the name and whose value is `null`. -/
def variants {α : Type} (name : String) (table : List (String × α)) : Decoder α :=
  let tag := stringWith "variant identifier" (lookupVariant table)
  { expecting := "enum " ++ name
    read := fun c =>
      let j := skipBlanks c.bytes c.pos
      let c := { c with pos := j }
      match (c.bytes[j]? : Option UInt8) with
      | some 0x7B =>
        if c.depth - 1 = 0 then
          .error { fault := .recursionLimit,
                   position := some (Position.ofIndex c.bytes (peekIndex c.bytes j)) } c
        else
          let body : Reader α := do
            let a ← tag.read
            colon
            unit.read
            match ← blanks with
            | some 0x7D => do eat; pure a
            | some _ => fail .expectedValue
            | none => fail .eofInObject
          match body { c with pos := j + 1, depth := c.depth - 1 } with
          | .ok a c' => .ok a { c' with depth := c.depth }
          | .error e c' => .error e { c' with depth := c.depth }
      | some 0x22 => tag.read c
      | some _ => failPeek .expectedValue c
      | none => failPeek .eofInValue c
    ofJson := fun
      | .str s => (lookupVariant table s).mapError .custom
      | .obj [(k, v)] => do
        let a ← (lookupVariant table k).mapError .custom
        unit.ofJson v
        pure a
      | .obj _ => .error (.invalidValue .map "map with a single key")
      | j => .error (.invalidType j.unexpected "string or map") }

end Decoder

end RoomConsole.Json
