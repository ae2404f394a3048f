/-!
# JSON documents

A JSON number keeps the class the reader gave it: a whole number that fits
64 unsigned bits, a negative whole number that fits 64 signed bits, or a
double for everything else. The class decides which typed fields accept the
number and how a refusal names it.

An object is a list of members. Documents read from text keep one member per
key in ascending key order, the last occurrence of a key winning
(`Json.insertSorted`); objects built by the program's own encoders keep the
order the encoder lists, which is the order they are written in.
-/

namespace RoomConsole.Json

/-- A JSON number, classified as the reader classifies it. -/
inductive Number where
  /-- A whole number in `[0, 2^64)`. -/
  | natural (n : Nat)
  /-- A whole number in `[-2^63, 0)`. -/
  | negative (n : Int)
  /-- Any other number, as a double. -/
  | float (f : Float)
  deriving Inhabited, Repr

end RoomConsole.Json

namespace RoomConsole

open RoomConsole.Json in
/-- A JSON document. -/
inductive Json where
  | null
  | bool (b : Bool)
  | num (n : Number)
  | str (s : String)
  | arr (items : List Json)
  | obj (members : List (String × Json))
  deriving Inhabited, Repr

end RoomConsole

namespace RoomConsole.Json

section

/-- A whole number as a JSON number. -/
def nat (n : Nat) : Json := .num (.natural n)

/-- An integer as a JSON number: natural when non-negative. -/
def int (i : Int) : Json := if i < 0 then .num (.negative i) else .num (.natural i.toNat)

/-- An optional value, `null` when absent. -/
def opt {α : Type} (f : α → Json) : Option α → Json
  | none => .null
  | some a => f a

/-- Insert a member keeping keys ascending and unique; a key already present
takes the new value in its place. -/
def insertSorted (k : String) (v : Json) : List (String × Json) → List (String × Json)
  | [] => [(k, v)]
  | (k', v') :: rest =>
    if k = k' then (k, v) :: rest
    else if k < k' then (k, v) :: (k', v') :: rest
    else (k', v') :: insertSorted k v rest

/-- The object of a list of members, sorted by key, the last occurrence of a
key winning. -/
def sortedObject (members : List (String × Json)) : Json :=
  .obj (members.foldl (fun acc (k, v) => insertSorted k v acc) [])

mutual
/-- The document as a value holds it: every object's members sorted by key,
the last occurrence of a key winning. -/
def normalize : Json → Json
  | .arr items => .arr (normalizeItems items)
  | .obj members => .obj ((normalizeMembers members).foldl (fun acc (k, v) => insertSorted k v acc) [])
  | j => j

/-- `normalize` on every item. -/
def normalizeItems : List Json → List Json
  | [] => []
  | x :: rest => normalize x :: normalizeItems rest

/-- `normalize` on every member's value. -/
def normalizeMembers : List (String × Json) → List (String × Json)
  | [] => []
  | (k, v) :: rest => (k, normalize v) :: normalizeMembers rest
end

/-- The value of a member. -/
def get? (j : Json) (k : String) : Option Json :=
  match j with
  | .obj ms => (ms.find? (·.1 == k)).map (·.2)
  | _ => none

/-- The text of a string value. -/
def str? : Json → Option String
  | .str s => some s
  | _ => none

/-- The truth value of a boolean. -/
def bool? : Json → Option Bool
  | .bool b => some b
  | _ => none

/-- A whole number, natural or negative. -/
def int? : Json → Option Int
  | .num (.natural n) => some n
  | .num (.negative n) => some n
  | _ => none

/-- The items of an array. -/
def arr? : Json → Option (List Json)
  | .arr xs => some xs
  | _ => none

/-- The members of an object. -/
def obj? : Json → Option (List (String × Json))
  | .obj ms => some ms
  | _ => none

/-- Whether the value is `null`. -/
def isNull : Json → Bool
  | .null => true
  | _ => false

end

end RoomConsole.Json
