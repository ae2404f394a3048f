import RoomConsole.Toml.Value

/-!
# Reading TOML

`Document.read` turns a text into the table it describes, or into the first
fault in it. Reading follows the TOML 1.0 grammar line by line: blank lines
and comments, table headers `[a.b]` and `[[a]]`, and `key = value` lines,
each ending with an optional comment and a line break.

A fault carries its message and the character index it is reported at.
Some faults only end the item being read, so that a list around it can stop
there (an array stops before an element that does not start like a value);
those are **soft**. Every other fault is final.

Tables are assembled as the headers arrive. The body under the latest
header is kept apart and filed under its path when the next header comes.
A table named only on the way to another (`a` for `[a.b]`) is **implicit**
and may still get a header of its own; one made by a dotted key is
**dotted** and may not. Each of the rules that keep a table from being
defined twice has its own message.
-/

namespace RoomConsole.Toml

/-- Why reading stopped, and where: a character index, or no place for a
fault found only after the whole text was read. -/
structure Slip where
  message : String
  pos : Option Nat
  /-- Final; a soft fault lets an enclosing list end before the item. -/
  cut : Bool := true
  deriving Inhabited

/-- A reader at a character index. -/
abbrev Parse := StateT Nat (Except Slip)

/-- Space and tab separate tokens on a line. -/
def isBlank (c : Char) : Bool := c = ' ' || c = '\t'

/-- A character that may stand unescaped in a basic string. -/
def isBasicChar (c : Char) : Bool :=
  let n := c.toNat
  c = ' ' || c = '\t' || n = 0x21 || (0x23 ≤ n && n ≤ 0x5B) || (0x5D ≤ n && n ≤ 0x7E) || n ≥ 0x80

/-- A character that may stand in a literal string. -/
def isLiteralChar (c : Char) : Bool :=
  let n := c.toNat
  n = 0x09 || (0x20 ≤ n && n ≤ 0x26) || (0x28 ≤ n && n ≤ 0x7E) || n ≥ 0x80

/-- A character that may stand in a comment. -/
def isCommentChar (c : Char) : Bool :=
  let n := c.toNat
  n = 0x09 || (0x20 ≤ n && n ≤ 0x7E) || n ≥ 0x80

/-- The value of a hexadecimal digit. -/
def hexDigit? (c : Char) : Option Nat :=
  if c.isDigit then some (c.toNat - 48)
  else if 'a' ≤ c && c ≤ 'f' then some (c.toNat - 87)
  else if 'A' ≤ c && c ≤ 'F' then some (c.toNat - 55)
  else none

/-- The value of a digit in a radix of at most 16. -/
def radixDigit? (radix : Nat) (c : Char) : Option Nat :=
  (hexDigit? c).bind fun d => if d < radix then some d else none

/-- Fail here with a message. -/
def fail {α : Type} (message : String) (cut : Bool := true) : Parse α := do
  throw { message, pos := some (← get), cut }

/-- Fail at an index with a message. -/
def failAt {α : Type} (pos : Nat) (message : String) : Parse α := throw { message, pos := some pos }

/-- The message where a value should start. -/
def expectedValue : String := "invalid string\nexpected `\"`, `'`"

/-- The message where a line should end after a key and its value. -/
def expectedLineEnd : String := "expected newline, `#`"

/-! ## Characters and lines -/

section Chars

variable (s : Array Char)

/-- The index of the first character at or after `i` that fails `p`. -/
def scanWhile (p : Char → Bool) (i : Nat) : Nat :=
  if h : i < s.size then if p s[i] then scanWhile p (i + 1) else i else i
termination_by s.size - i

/-- The character at an index, if any. -/
def charAt (i : Nat) : Option Char := s[i]?

/-- Whether the character at `i` satisfies `p`. -/
def holdsAt (p : Char → Bool) (i : Nat) : Bool := ((s[i]?).map p).getD false

/-- The text between two indices. -/
def textOf (a b : Nat) : String := String.ofList (s.extract a b).toList

/-- The character under the reader. -/
def peek : Parse (Option Char) := do return s[(← get)]?

/-- The character `k` places after the reader. -/
def ahead (k : Nat) : Parse (Option Char) := do return s[(← get) + k]?

/-- Skip spaces and tabs. -/
def blanks : Parse Unit := modify (scanWhile s isBlank)

/-- Skip a comment; the reader stands on its `#`. -/
def comment : Parse Unit := modify fun i => scanWhile s isCommentChar (i + 1)

/-- A line break here: a line feed, or a carriage return and a line feed. -/
def lineBreak? : Parse Bool := do
  match ← peek s with
  | some '\n' => modify (· + 1); pure true
  | some '\r' => if (← ahead s 1) = some '\n' then modify (· + 2); pure true else pure false
  | _ => pure false

/-- The line ends here, or the text does; otherwise fail with `message`. -/
def lineEnding (message : String) : Parse Unit := do
  if (← peek s).isNone then return
  unless ← lineBreak? s do fail message

/-- Blanks, an optional comment, and the end of the line. -/
def lineTrailing (message : String) : Parse Unit := do
  blanks s
  if (← peek s) = some '#' then comment s
  lineEnding s message

/-- Blanks, comments and line breaks, as between the elements of an array;
a comment must end with a line break. -/
def blankLines : Nat → Parse Unit
  | 0 => pure ()
  | n + 1 => do
    blanks s
    match ← peek s with
    | some '#' =>
      comment s
      unless ← lineBreak? s do fail "" false
      blankLines n
    | some '\n' | some '\r' =>
      unless ← lineBreak? s do fail "" false
      blankLines n
    | _ => pure ()

/-! ## Strings -/

/-- A hexadecimal escape of `n` digits after `\u` or `\U`; the reader stands
on the first digit. -/
def hexEscape (n : Nat) (label : String) : Parse Char := do
  let p ← get
  let q := scanWhile s (fun c => (hexDigit? c).isSome) p
  unless q - p ≥ n do failAt p ("invalid " ++ label)
  let v := ((s.extract p (p + n)).toList.filterMap hexDigit?).foldl (fun a d => a * 16 + d) 0
  unless v < 0xD800 || (0xDFFF < v && v ≤ 0x10FFFF) do
    failAt p ("invalid " ++ label ++ "\nvalue is out of range")
  set (p + n)
  pure (Char.ofNat v)

/-- An escape; the reader stands on the backslash. An unknown escape fails
at the backslash with `label`, the message of the unclosed string. -/
def escape (label : String) : Parse Char := do
  let p ← get
  let simple (c : Char) : Parse Char := do set (p + 2); pure c
  match charAt s (p + 1) with
  | some 'b' => simple '\x08'
  | some 't' => simple '\t'
  | some 'n' => simple '\n'
  | some 'f' => simple '\x0c'
  | some 'r' => simple '\r'
  | some '"' => simple '"'
  | some '\\' => simple '\\'
  | some 'u' => set (p + 2); hexEscape s 4 "unicode 4-digit hex code"
  | some 'U' => set (p + 2); hexEscape s 8 "unicode 8-digit hex code"
  | _ => fail label

/-- The message of an unclosed basic string. -/
def basicLabel : String := "invalid basic string"

/-- The rest of a basic string up to its closing quote. -/
def basicBody : Nat → List Char → Parse String
  | 0, _ => fail basicLabel
  | n + 1, acc => do
    match ← peek s with
    | some '"' => modify (· + 1); pure (String.ofList acc.reverse)
    | some '\\' => let c ← escape s basicLabel; basicBody n (c :: acc)
    | some c =>
      if isBasicChar c then modify (· + 1); basicBody n (c :: acc) else fail basicLabel
    | none => fail basicLabel

/-- A basic string; the reader stands on its opening quote. -/
def basicString : Parse String := do
  modify (· + 1)
  basicBody s (s.size + 1) []

/-- The message of an unclosed multi-line basic string. -/
def mlBasicLabel : String := "invalid multiline basic string"

/-- The quotes at `p` when they close a multi-line string delimited by `q`:
up to two quotes before the closing three belong to the content. -/
def closingRun (q : Char) (p : Nat) : Option Nat :=
  let run := scanWhile s (· = q) p - p
  if run ≥ 3 then some (min (run - 3) 2) else none

/-- Whether a backslash at `p` ends its line: blanks, then a line break. -/
def escapesLineEnd (p : Nat) : Bool :=
  let j := scanWhile s isBlank (p + 1)
  charAt s j = some '\n' || (charAt s j = some '\r' && charAt s (j + 1) = some '\n')

/-- The rest of a multi-line basic string up to its closing quotes. -/
def mlBasicBody : Nat → List Char → Parse String
  | 0, _ => fail mlBasicLabel
  | n + 1, acc => do
    let p ← get
    match charAt s p with
    | some '"' =>
      match closingRun s '"' p with
      | some extra =>
        set (p + 3 + extra)
        pure (String.ofList (acc.reverse ++ List.replicate extra '"'))
      | none =>
        let run := scanWhile s (· = '"') p - p
        set (p + run)
        mlBasicBody n (List.replicate run '"' ++ acc)
    | some '\\' =>
      if escapesLineEnd s p then
        set (scanWhile s (fun c => isBlank c || c = '\n' || c = '\r') (p + 1))
        mlBasicBody n acc
      else
        let c ← escape s mlBasicLabel
        mlBasicBody n (c :: acc)
    | some '\n' => set (p + 1); mlBasicBody n ('\n' :: acc)
    | some '\r' =>
      if charAt s (p + 1) = some '\n' then set (p + 2); mlBasicBody n ('\n' :: acc)
      else fail mlBasicLabel
    | some c =>
      if isBasicChar c then set (p + 1); mlBasicBody n (c :: acc) else fail mlBasicLabel
    | none => fail mlBasicLabel

/-- A multi-line basic string; the reader stands on its opening quotes. A
line break right after them is not part of the content. -/
def mlBasicString : Parse String := do
  modify (· + 3)
  let _ ← lineBreak? s
  mlBasicBody s (s.size + 1) []

/-- A literal string; the reader stands on its opening apostrophe. -/
def literalString : Parse String := do
  let p ← get
  let q := scanWhile s isLiteralChar (p + 1)
  set q
  unless charAt s q = some '\'' do fail "invalid literal string"
  set (q + 1)
  pure (textOf s (p + 1) q)

/-- The message of an unclosed multi-line literal string. -/
def mlLiteralLabel : String := "invalid multiline literal string"

/-- The rest of a multi-line literal string up to its closing apostrophes. -/
def mlLiteralBody : Nat → List Char → Parse String
  | 0, _ => fail mlLiteralLabel
  | n + 1, acc => do
    let p ← get
    match charAt s p with
    | some '\'' =>
      match closingRun s '\'' p with
      | some extra =>
        set (p + 3 + extra)
        pure (String.ofList (acc.reverse ++ List.replicate extra '\''))
      | none =>
        let run := scanWhile s (· = '\'') p - p
        set (p + run)
        mlLiteralBody n (List.replicate run '\'' ++ acc)
    | some '\n' => set (p + 1); mlLiteralBody n ('\n' :: acc)
    | some '\r' =>
      if charAt s (p + 1) = some '\n' then set (p + 2); mlLiteralBody n ('\n' :: acc)
      else fail mlLiteralLabel
    | some c =>
      if isLiteralChar c then set (p + 1); mlLiteralBody n (c :: acc) else fail mlLiteralLabel
    | none => fail mlLiteralLabel

/-- A multi-line literal string; the reader stands on its opening apostrophes. -/
def mlLiteralString : Parse String := do
  modify (· + 3)
  let _ ← lineBreak? s
  mlLiteralBody s (s.size + 1) []

/-- A string value of any of the four kinds. -/
def stringValue : Parse String := do
  let p ← get
  if charAt s p = some '"' then
    if charAt s (p + 1) = some '"' && charAt s (p + 2) = some '"' then mlBasicString s
    else basicString s
  else if charAt s (p + 1) = some '\'' && charAt s (p + 2) = some '\'' then mlLiteralString s
  else literalString s

/-! ## Keys -/

/-- A bare or quoted key. -/
def simpleKey : Parse String := do
  let p ← get
  match charAt s p with
  | some '"' => basicString s
  | some '\'' => literalString s
  | _ =>
    let q := scanWhile s isBareKeyChar p
    if q = p then fail "invalid key" false
    set q
    pure (textOf s p q)

/-- A simple key with blanks around it. -/
def keyPart : Parse String := do
  blanks s
  let k ← simpleKey s
  blanks s
  pure k

/-- Further dotted parts of a key. A dot after which no key starts is left
unread. -/
def keyRest : Nat → List String → Parse (List String)
  | 0, acc => pure acc.reverse
  | n + 1, acc => do
    let back ← get
    unless charAt s back = some '.' do return acc.reverse
    match (keyPart s).run (back + 1) with
    | .ok (k, q) => set q; keyRest n (k :: acc)
    | .error e => if e.cut then throw e else set back; pure acc.reverse

/-- A dotted key: one or more simple keys joined by dots. -/
def dottedKey : Parse (List String) := do
  let k ← keyPart s
  keyRest s (s.size + 1) [k]

end Chars

/-! ## Tables under construction -/

/-- A node of a table being assembled: a value, a table with its flags, or
an array of tables given by their entries. -/
inductive Node where
  | leaf (v : Value)
  | table (implicit dotted : Bool) (entries : List (String × Node))
  | tables (items : List (List (String × Node)))
  deriving Inhabited

/-- The entries of a table being assembled. -/
abbrev Entries := List (String × Node)

mutual

/-- The value a node stands for. -/
def Node.toValue : Node → Value
  | .leaf v => v
  | .table _ _ es => .table (Node.entriesValue es)
  | .tables items => .array (Node.itemsValue items)

/-- The entries of a table as values. -/
def Node.entriesValue : Entries → List (String × Value)
  | [] => []
  | (k, n) :: rest => (k, n.toValue) :: Node.entriesValue rest

/-- The tables of an array of tables as values. -/
def Node.itemsValue : List Entries → List Value
  | [] => []
  | es :: rest => .table (Node.entriesValue es) :: Node.itemsValue rest

end

/-- The entry under a key. -/
def lookupEntry (k : String) : Entries → Option Node
  | [] => none
  | (k', n) :: rest => if k' = k then some n else lookupEntry k rest

/-- Replace the entry under a key. -/
def replaceEntry (k : String) (n : Node) (es : Entries) : Entries :=
  es.map fun (k', m) => if k' = k then (k', n) else (k', m)

/-- Remove the entry under a key. -/
def eraseEntry (k : String) (es : Entries) : Entries := es.filter fun e => e.1 != k

/-- The message of a key defined twice; `table` names the table it was
defined in, when the rule that caught it knows. -/
def duplicateKey (k : String) (table : Option (List String)) : String :=
  match table with
  | none => "duplicate key `" ++ k ++ "`"
  | some [] => "duplicate key `" ++ k ++ "` in document root"
  | some path => "duplicate key `" ++ k ++ "` in table `" ++ ".".intercalate path ++ "`"

/-- The message of a dotted key that runs into a value. -/
def extendsValue (path : List String) (i : Nat) (typeName : String) : String :=
  "dotted key `" ++ ".".intercalate (path.take (i + 1)) ++
    "` attempted to extend non-table type (" ++ typeName ++ ")"

/-- Walk `path` down from a table, making missing tables on the way (dotted
ones when `dotted`), and apply `f` to the table reached and its dotted flag.
Through an array of tables the walk enters the last one. -/
def descend {α : Type} (dotted : Bool) (whole : List String)
    (f : Bool → Entries → Except String (Entries × α)) :
    Nat → List String → Bool → Entries → Except String (Entries × α)
  | _, [], flag, es => f flag es
  | i, k :: rest, _, es =>
    match lookupEntry k es with
    | none => do
      let (sub, a) ← descend dotted whole f (i + 1) rest dotted []
      pure (es ++ [(k, .table true dotted sub)], a)
    | some (.leaf v) => .error (extendsValue whole i v.typeName)
    | some (.tables items) => do
      let (sub, a) ← descend dotted whole f (i + 1) rest false (items.getLast?.getD [])
      pure (replaceEntry k (.tables (items.dropLast ++ [sub])) es, a)
    | some (.table imp dot sub) =>
      if dotted && !imp then .error (duplicateKey k none)
      else do
        let (sub', a) ← descend dotted whole f (i + 1) rest dot sub
        pure (replaceEntry k (.table imp dot sub') es, a)

/-- Add `key = v` under the dotted `path` of an inline table. A table
written as a value counts as defined and cannot be extended. -/
def insertInline (whole : List String) (key : String) (v : Value) :
    Nat → List String → Bool → Entries → Except String Entries
  | _, [], flag, es =>
    if flag == whole.isEmpty then .error (duplicateKey key none)
    else if (lookupEntry key es).isSome then .error (duplicateKey key none)
    else .ok (es ++ [(key, .leaf v)])
  | i, k :: rest, _, es =>
    match lookupEntry k es with
    | none => do
      let sub ← insertInline whole key v (i + 1) rest true []
      pure (es ++ [(k, .table true true sub)])
    | some (.table imp dot sub) =>
      if !imp then .error (duplicateKey k none)
      else do
        let sub' ← insertInline whole key v (i + 1) rest dot sub
        pure (replaceEntry k (.table imp dot sub') es)
    | some (.leaf (.table _)) => .error (duplicateKey k none)
    | some (.leaf v') => .error (extendsValue whole i v'.typeName)
    | some (.tables _) => .error (extendsValue whole i "array")

/-- The inline table of a list of `path.key = value` pairs. -/
def inlineTable (pairs : List (List String × String × Value)) : Except String Value := do
  let es ← pairs.foldlM (fun es (path, key, v) => insertInline path key v 0 path false es) []
  pure (Node.toValue (.table false false es))

/-- A document being assembled: the tables filed so far, and the body under
the latest header with its path. -/
structure Assembly where
  root : Entries := []
  current : Entries := []
  path : List String := []
  isArray : Bool := false

/-- A path split into its parent and its last key. -/
def splitLast (path : List String) : List String × String :=
  (path.dropLast, path.getLast?.getD "")

/-- Add `path.key = v` to the body under the latest header. -/
def Assembly.keyval (a : Assembly) (path : List String) (key : String) (v : Value) :
    Except String Assembly := do
  let (cur, _) ← descend true path (fun flag es =>
      if flag == path.isEmpty then .error (duplicateKey key none)
      else if (lookupEntry key es).isSome then .error (duplicateKey key (some a.path))
      else .ok (es ++ [(key, .leaf v)], ())) 0 path false a.current
  pure { a with current := cur }

/-- File the body under the latest header into the document. -/
def Assembly.finalize (a : Assembly) : Except String Assembly :=
  if a.path.isEmpty then .ok { a with root := a.current, current := [] }
  else
    let (parent, k) := splitLast a.path
    let file (es : Entries) : Except String (Entries × Unit) :=
      match lookupEntry k es, a.isArray with
      | none, true => .ok (es ++ [(k, .tables [a.current])], ())
      | some (.tables items), true => .ok (replaceEntry k (.tables (items ++ [a.current])) es, ())
      | none, false => .ok (es ++ [(k, .table false false a.current)], ())
      | some (.table true _ _), false => .ok (replaceEntry k (.table false false a.current) es, ())
      | _, _ => .error (duplicateKey k (some parent))
    match descend false parent (fun _ es => file es) 0 parent false a.root with
    | .ok (root, _) => .ok { root, current := [], path := [], isArray := false }
    | .error m => .error m

/-- Open the table of a `[path]` header: a table named before only on the
way to another takes its header now; any other earlier definition clashes. -/
def Assembly.startTable (a : Assembly) (path : List String) : Except String Assembly := do
  let (parent, k) := splitLast path
  let (root, cur) ← descend false parent (fun _ es =>
      match lookupEntry k es with
      | none => .ok (es, [])
      | some (.table true false t) => .ok (eraseEntry k es, t)
      | some _ => .error (duplicateKey k (some parent))) 0 parent false a.root
  pure { root, current := cur, path, isArray := false }

/-- Open a new table of a `[[path]]` header. -/
def Assembly.startArray (a : Assembly) (path : List String) : Except String Assembly := do
  let (parent, k) := splitLast path
  let (root, _) ← descend false parent (fun _ es =>
      match lookupEntry k es with
      | none => .ok (es ++ [(k, .tables [])], ())
      | some (.tables _) => .ok (es, ())
      | some _ => .error (duplicateKey k (some parent))) 0 parent false a.root
  pure { root, current := [], path, isArray := true }

/-! ## Numbers and date-times -/

section Values

variable (s : Array Char)

/-- Whether `n` ASCII digits stand at `i`. -/
def digitsAt (i n : Nat) : Bool := (List.range n).all fun k => holdsAt s Char.isDigit (i + k)

/-- The value of the two digits at `i`. -/
def twoDigits (i : Nat) : Nat :=
  let d (j : Nat) := ((charAt s j).map fun c => c.toNat - 48).getD 0
  d i * 10 + d (i + 1)

/-- Two digits at `i` within `lo..hi`, as a field of a date-time whose
reading is already decided. -/
def dateField (i lo hi : Nat) : Except Slip Unit :=
  if !digitsAt s i 2 then .error { message := "invalid date-time", pos := some i }
  else if lo ≤ twoDigits s i && twoDigits s i ≤ hi then .ok ()
  else .error { message := "invalid date-time\nvalue is out of range", pos := some i }

/-- A separator of a date-time whose reading is already decided. -/
def dateSep (i : Nat) (c : Char) : Except Slip Unit :=
  if charAt s i = some c then .ok () else .error { message := "invalid date-time", pos := some i }

/-- Whether an hour stands at `i`, followed by a colon. -/
def hourAt (i : Nat) : Bool := digitsAt s i 2 && twoDigits s i ≤ 23 && charAt s (i + 2) = some ':'

/-- The end of a time whose hour and colon stand at `i`. -/
def timeEnd (i : Nat) : Except Slip Nat := do
  dateField s (i + 3) 0 59
  dateSep s (i + 5) ':'
  dateField s (i + 6) 0 60
  let e := i + 8
  if charAt s e = some '.' && holdsAt s Char.isDigit (e + 1) then
    pure (scanWhile s Char.isDigit (e + 1))
  else pure e

/-- The end of an optional UTC offset at `i`. -/
def offsetEnd (i : Nat) : Except Slip Nat :=
  match charAt s i with
  | some 'Z' | some 'z' => .ok (i + 1)
  | some '+' | some '-' => do
    dateField s (i + 1) 0 23
    dateSep s (i + 3) ':'
    dateField s (i + 4) 0 59
    pure (i + 6)
  | _ => .ok i

/-- The end of a date-time whose date starts at `i`: the date, then an
optional time and offset. -/
def dateTimeEnd (i : Nat) : Except Slip Nat := do
  dateField s (i + 5) 1 12
  dateSep s (i + 7) '-'
  dateField s (i + 8) 1 31
  let e := i + 10
  if (charAt s e = some 'T' || charAt s e = some 't' || charAt s e = some ' ') && hourAt s (e + 1) then
    let t ← timeEnd s (e + 1)
    offsetEnd s t
  else pure e

/-- The end of digits with single underscores between them, from a digit at
`i`; `label` is the message of an underscore not followed by a digit. -/
def underscoredEnd (label : String) : Nat → Nat → Except Slip Nat
  | 0, i => .ok i
  | n + 1, i =>
    if holdsAt s Char.isDigit i then underscoredEnd label n (i + 1)
    else if charAt s i = some '_' then
      if holdsAt s Char.isDigit (i + 1) then underscoredEnd label n (i + 2)
      else .error { message := label, pos := some (i + 1) }
    else .ok i

/-- The end of a decimal integer's digits at `i`: a lone `0`, or a nonzero
digit and more; `none` when no digit stands there. -/
def decimalEnd (i : Nat) : Except Slip (Option Nat) :=
  match charAt s i with
  | some '0' => .ok (some (i + 1))
  | some c =>
    if c.isDigit then (underscoredEnd s "invalid integer\nexpected digit" s.size (i + 1)).map some
    else .ok none
  | none => .ok none

/-- The end of a fraction's or exponent's digits at `i`. -/
def digitsEnd (missing underscore : String) (i : Nat) : Except Slip Nat :=
  if holdsAt s Char.isDigit i then underscoredEnd s underscore s.size (i + 1)
  else .error { message := missing, pos := some i }

/-- The end of an exponent whose mark stands at `i`. -/
def exponentEnd (i : Nat) : Except Slip Nat :=
  let j := if charAt s (i + 1) = some '+' || charAt s (i + 1) = some '-' then i + 2 else i + 1
  digitsEnd s "invalid floating-point number" "invalid floating-point number\nexpected digit" j

/-- The value of decimal digits, underscores skipped. -/
def digitValue (cs : List Char) : Nat :=
  cs.foldl (fun a c => if c.isDigit then a * 10 + (c.toNat - 48) else a) 0

/-- The number of digits in a list, underscores skipped. -/
def digitCount (cs : List Char) : Nat := (cs.filter Char.isDigit).length

/-- The double nearest a decimal written with an optional sign, digits, an
optional fraction and an optional exponent. -/
def floatOf (text : List Char) : Float :=
  let negative := text.head? = some '-'
  let body := text.dropWhile fun c => c = '+' || c = '-'
  let mant := body.takeWhile fun c => c != 'e' && c != 'E'
  let expPart := (body.dropWhile fun c => c != 'e' && c != 'E').drop 1
  let whole := mant.takeWhile (· != '.')
  let frac := (mant.dropWhile (· != '.')).drop 1
  let m := digitValue (whole ++ frac)
  let e : Int :=
    (if expPart.head? = some '-' then -(digitValue expPart : Int) else (digitValue expPart : Int))
      - (digitCount frac : Int)
  let x := if e < 0 then Float.ofScientific m true e.natAbs else Float.ofScientific m false e.natAbs
  if negative then -x else x

/-- The end of digits of a radix with single underscores between them, from
a digit at `i`; `label` is the message of an underscore not followed by a
digit. -/
def radixEnd (radix : Nat) (label : String) : Nat → Nat → Except Slip Nat
  | 0, i => .ok i
  | n + 1, i =>
    let isD (c : Char) := (radixDigit? radix c).isSome
    if holdsAt s isD i then radixEnd radix label n (i + 1)
    else if charAt s i = some '_' then
      if holdsAt s isD (i + 1) then radixEnd radix label n (i + 2)
      else .error { message := label, pos := some (i + 1) }
    else .ok i

/-- An integer of a radix after its two-letter prefix at `start`. -/
def radixValue (start radix : Nat) (label : String) : Parse Value := do
  let p := start + 2
  unless holdsAt s (fun c => (radixDigit? radix c).isSome) p do failAt p label
  let stop ← match radixEnd s radix label s.size p with
    | .ok e => pure e
    | .error e => throw e
  let v := (s.extract p stop).toList.foldl
    (fun a c => match radixDigit? radix c with | some d => a * radix + d | none => a) 0
  if (v : Int) > maxInteger then failAt start "number too large to fit in target type"
  set stop
  pure (.integer v)

/-- A number or date-time; the reader stands on its first character, a sign
or a digit. -/
def numberValue : Parse Value := do
  let start ← get
  let lift {α : Type} (r : Except Slip α) : Parse α := match r with
    | .ok a => pure a
    | .error e => throw e
  if digitsAt s start 4 && charAt s (start + 4) = some '-' then
    let e ← lift (dateTimeEnd s start)
    set e
    return .datetime (textOf s start e)
  if hourAt s start then
    let t ← lift (timeEnd s start)
    set t
    return .datetime (textOf s start t)
  let signed := charAt s start = some '+' || charAt s start = some '-'
  let p := if signed then start + 1 else start
  let word (w : String) : Bool := textOf s p (p + 3) = w
  if word "inf" || word "nan" then
    set (p + 3)
    let x : Float := if word "nan" then 0.0 / 0.0 else 1.0 / 0.0
    return .float (if charAt s start = some '-' then -x else x)
  if !signed && charAt s p = some '0' then
    match charAt s (p + 1) with
    | some 'x' => return ← radixValue s start 16 "invalid hexadecimal integer"
    | some 'o' => return ← radixValue s start 8 "invalid octal integer"
    | some 'b' => return ← radixValue s start 2 "invalid binary integer"
    | _ => pure ()
  match ← lift (decimalEnd s p) with
  | none => throw { message := "invalid integer", pos := some p, cut := false }
  | some e =>
    let floatEnd : Option (Except Slip Nat) :=
      if charAt s e = some 'e' || charAt s e = some 'E' then some (exponentEnd s e)
      else if charAt s e = some '.' then
        some (do
          let f ← digitsEnd s "invalid floating-point number\nexpected digit"
            "invalid floating-point number\nexpected digit, digit" (e + 1)
          if charAt s f = some 'e' || charAt s f = some 'E' then exponentEnd s f else pure f)
      else none
    match floatEnd with
    | some r =>
      let f ← lift r
      let x := floatOf (s.extract start f).toList
      if x.isInf && x > 0 then failAt start "invalid floating-point number"
      set f
      pure (.float x)
    | none =>
      let cs := (s.extract p e).toList
      let magnitude : Int := digitValue cs
      let v := if charAt s start = some '-' then -magnitude else magnitude
      if v > maxInteger then failAt start "number too large to fit in target type"
      if v < minInteger then failAt start "number too small to fit in target type"
      set e
      pure (.integer v)

/-- A keyword value (`true`, `false`, `inf`, `nan`) when the text at the
reader spells it; otherwise the soft fault of a missing value. -/
def keywordValue (w : String) (v : Value) : Parse Value := do
  let p ← get
  if textOf s p (p + w.length) = w then set (p + w.length); pure v
  else fail expectedValue false

/-- Run an item reader at the current index; a soft fault restores the
index and answers `none`. -/
def attempt {α : Type} (r : Parse α) : Parse (Option α) := do
  let back ← get
  match r.run back with
  | .ok (a, q) => set q; pure (some a)
  | .error e => if e.cut then throw e else set back; pure none

/-- Elements of an array after the first, each after a comma. -/
def arrayRest (item : Parse Value) : Nat → List Value → Parse (List Value)
  | 0, acc => pure acc.reverse
  | n + 1, acc => do
    let back ← get
    unless charAt s back = some ',' do return acc.reverse
    set (back + 1)
    match ← attempt (do blankLines s (s.size + 1); let v ← item; blankLines s (s.size + 1); pure v) with
    | some v => arrayRest item n (v :: acc)
    | none => set back; pure acc.reverse

/-- An array; the reader stands on its `[`. -/
def arrayValue (item : Parse Value) : Parse Value := do
  modify (· + 1)
  let first ← attempt (do blankLines s (s.size + 1); let v ← item; blankLines s (s.size + 1); pure v)
  let items ← match first with
    | none => pure []
    | some v => arrayRest s item (s.size + 1) [v]
  if !items.isEmpty && (← peek s) = some ',' then modify (· + 1)
  blankLines s (s.size + 1)
  unless (← peek s) = some ']' do fail "invalid array\nexpected `]`"
  modify (· + 1)
  pure (.array items)

/-- One `key = value` pair of an inline table. Only a missing key is soft. -/
def inlinePair (item : Parse Value) : Parse (List String × String × Value) := do
  let path ← dottedKey s
  unless (← peek s) = some '=' do fail "expected `.`, `=`"
  modify (· + 1)
  blanks s
  let v ← tryCatch item fun e => throw { e with cut := true }
  blanks s
  let (parent, k) := splitLast path
  pure (parent, k, v)

/-- Pairs of an inline table after the first, each after a comma. -/
def inlineRest (item : Parse Value) : Nat → List (List String × String × Value) →
    Parse (List (List String × String × Value))
  | 0, acc => pure acc.reverse
  | n + 1, acc => do
    let back ← get
    unless charAt s back = some ',' do return acc.reverse
    set (back + 1)
    match ← attempt (inlinePair s item) with
    | some pr => inlineRest item n (pr :: acc)
    | none => set back; pure acc.reverse

/-- An inline table; the reader stands on its brace. -/
def inlineValue (item : Parse Value) : Parse Value := do
  modify (· + 1)
  let start ← get
  let first ← attempt (inlinePair s item)
  let pairs ← match first with
    | none => pure []
    | some pr => inlineRest s item (s.size + 1) [pr]
  blanks s
  let t ← match inlineTable pairs with
    | .ok t => pure t
    | .error m => failAt start m
  unless (← peek s) = some '\x7d' do fail "invalid inline table\nexpected `\x7d`"
  modify (· + 1)
  pure t

/-- A value, arrays and inline tables nested at most `depth` deep. -/
def value : Nat → Parse Value
  | 0 => fail "recursion limit exceeded"
  | d + 1 => do
    match ← peek s with
    | none => fail "" false
    | some c =>
      if c = '"' || c = '\'' then return .string (← stringValue s)
      if c = '[' then return ← arrayValue s (value d)
      if c = '\x7b' then return ← inlineValue s (value d)
      if c = '+' || c = '-' || c.isDigit then return ← numberValue s
      if c = '_' then return ← fail "invalid integer\nexpected leading digit" false
      if c = '.' then return ← fail "invalid floating-point number\nexpected leading digit" false
      match c with
      | 't' => keywordValue s "true" (.boolean true)
      | 'f' => keywordValue s "false" (.boolean false)
      | 'i' => keywordValue s "inf" (.float (1.0 / 0.0))
      | 'n' => keywordValue s "nan" (.float (0.0 / 0.0))
      | _ => fail expectedValue false

end Values

/-! ## Documents -/

section Document

variable (s : Array Char)

/-- A `key = value` line; the reader stands on the key. -/
def keyvalLine (a : Assembly) : Parse Assembly := do
  let start ← get
  let path ← dottedKey s
  unless (← peek s) = some '=' do fail "expected `.`, `=`"
  modify (· + 1)
  blanks s
  let v ← value s (s.size + 1)
  lineTrailing s expectedLineEnd
  let (parent, k) := splitLast path
  match a.keyval parent k v with
  | .ok a => pure a
  | .error m => failAt start m

/-- A table header line; the reader stands on its bracket. -/
def headerLine (a : Assembly) : Parse Assembly := do
  let start ← get
  let isArray := charAt s (start + 1) = some '['
  set (start + if isArray then 2 else 1)
  let path ← dottedKey s
  let p ← get
  if isArray then
    unless charAt s p = some ']' && charAt s (p + 1) = some ']' do
      fail "invalid table header\nexpected `.`, `]]`"
    set (p + 2)
  else
    unless charAt s p = some ']' do fail "invalid table header\nexpected `.`, `]`"
    set (p + 1)
  lineTrailing s ("invalid table header\n" ++ expectedLineEnd)
  let opened := a.finalize.bind fun a => if isArray then a.startArray path else a.startTable path
  match opened with
  | .ok a => pure a
  | .error m => failAt start ("invalid table header\n" ++ m)

/-- The lines of a document from the reader on. -/
def lines : Nat → Assembly → Parse Assembly
  | 0, a => pure a
  | n + 1, a => do
    match ← peek s with
    | none => pure a
    | some '#' =>
      comment s
      lineEnding s ""
      blanks s
      lines n a
    | some '\n' | some '\r' =>
      unless ← lineBreak? s do fail ""
      blanks s
      lines n a
    | some '[' =>
      let a ← headerLine s a
      blanks s
      lines n a
    | some _ =>
      let a ← keyvalLine s a
      blanks s
      lines n a

end Document

/-- The table a TOML text describes, or its first fault. A byte order mark
at the start is skipped. -/
def Document.read (text : String) : Except Slip (List (String × Value)) := do
  let s := text.toList.toArray
  let start := if (s[0]?.map Char.toNat) = some 0xFEFF then 1 else 0
  let (a, _) ← (do blanks s; lines s (s.size + 1) {}).run start
  match a.finalize with
  | .ok a => pure (Node.entriesValue a.root)
  | .error m => throw { message := m, pos := none }

/-- The line and column of a character index, counted from zero; an index
past the end is placed one column after the last character. -/
def placeOf (cs : List Char) (i : Nat) : Nat × Nat :=
  if cs.isEmpty then (0, i)
  else
    let safe := min i (cs.length - 1)
    let before := cs.take safe
    let lineStart := match (before.zipIdx.filter (·.1 = '\n')).getLast? with
      | some (_, j) => j + 1
      | none => 0
    let line := (cs.take lineStart).count '\n'
    (line, safe - lineStart + (i - safe))

/-- The text of a fault: with a place, a header naming line and column, the
line itself and a caret under the place, then the message. -/
def Slip.render (text : String) (slip : Slip) : String :=
  match slip.pos with
  | none => slip.message ++ "\n"
  | some i =>
    let (line, column) := placeOf text.toList i
    let number := toString (line + 1)
    let gutter := String.ofList (List.replicate (number.length + 1) ' ')
    let content := ((text.splitOn "\n").drop line).head?.getD ""
    "TOML parse error at line " ++ number ++ ", column " ++ toString (column + 1) ++ "\n" ++
      gutter ++ "|\n" ++
      number ++ " | " ++ content ++ "\n" ++
      gutter ++ "|" ++ String.ofList (List.replicate (column + 1) ' ') ++ "^\n" ++
      slip.message ++ "\n"

end RoomConsole.Toml
