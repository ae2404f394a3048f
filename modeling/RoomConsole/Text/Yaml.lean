import RoomConsole.Text.Space

/-!
# YAML text

Values written as block YAML: mappings one key a line, nested mappings
indented by two spaces, an empty mapping as `{}`.

A text is written plain when it reads back as the same text. It is quoted
in single quotes when plain would read as something else (null, a boolean,
an integer, a finite float, digits with a leading zero) or would be misread
as YAML syntax (a leading indicator such as `*`, `&` or `-` followed by a
space, a colon followed by a space, a space at either end); in double
quotes, with escapes, when it holds characters a single-quoted text cannot
show. A value holding a line feed is a literal block (`|`), whose header
says how its final line breaks are kept, unless a block cannot show it.

A key is written after `? ` on a line of its own, with `:` on the next,
when it spans lines or is longer than 128 bytes. No line is folded.
-/

namespace RoomConsole.Text.Yaml

/-- A YAML value. -/
inductive Value where
  | null
  | bool (b : Bool)
  | nat (n : Nat)
  | str (s : String)
  | map (entries : List (String × Value))

/-! ## Characters -/

/-- A character YAML shows as it is. -/
def printable (c : Char) : Bool :=
  let n := c.toNat
  n = 0x0A || (0x20 ≤ n && n ≤ 0x7E) || (0xA0 ≤ n && n ≤ 0xD7FF)
    || (0xE000 ≤ n && n ≤ 0xFFFD && n ≠ 0xFEFF)

/-- A line break character. -/
def isBreak (c : Char) : Bool :=
  c = '\r' || c = '\n' || c.toNat = 0x85 || c.toNat = 0x2028 || c.toNat = 0x2029

/-- A blank, a break, a zero character, or the end. -/
def blankOrEnd : Option Char → Bool
  | none => true
  | some c => c = ' ' || c = '\t' || c = '\x00' || isBreak c

/-- Characters that start YAML syntax at the start of a text. -/
def leadIndicators : List Char :=
  ['#', ',', '[', ']', '\x7b', '\x7d', '&', '*', '!', '|', '>', '\x27', '"', '%', '@', '\x60']

/-! ## Where a text may stand -/

/-- What one pass over a text finds. -/
structure Scan where
  indicator : Bool := false
  special : Bool := false
  lineBreaks : Bool := false
  leadingBlank : Bool := false
  trailingSpace : Bool := false
  trailingBreak : Bool := false
  breakSpace : Bool := false
  spaceBreak : Bool := false
  prevSpace : Bool := false
  prevBreak : Bool := false

/-- The character at position `i` starts YAML syntax in block context:
a lead indicator, `?`, `:` or `-` before a blank at the start, a `:` before
a blank or a `#` after one elsewhere. -/
def startsSyntax (i : Nat) (before : Bool) (c : Char) (after : Bool) : Bool :=
  if i = 0 then leadIndicators.contains c || ((c = '?' || c = ':' || c = '-') && after)
  else (c = ':' && after) || (c = '#' && before)

/-- Scan the characters from position `i`, `before` telling whether the
previous one is blank. -/
def scanFrom : Nat → Bool → List Char → Scan → Scan
  | _, _, [], acc => acc
  | i, before, c :: rest, acc =>
    let acc := { acc with
      indicator := acc.indicator || startsSyntax i before c (blankOrEnd rest.head?)
      special := acc.special || !printable c
      lineBreaks := acc.lineBreaks || isBreak c }
    let acc :=
      if c = ' ' then
        { acc with leadingBlank := acc.leadingBlank || i = 0,
                   trailingSpace := acc.trailingSpace || rest.isEmpty,
                   breakSpace := acc.breakSpace || acc.prevBreak,
                   prevSpace := true, prevBreak := false }
      else if isBreak c then
        { acc with leadingBlank := acc.leadingBlank || i = 0,
                   trailingBreak := acc.trailingBreak || rest.isEmpty,
                   spaceBreak := acc.spaceBreak || acc.prevSpace,
                   prevSpace := false, prevBreak := true }
      else { acc with prevSpace := false, prevBreak := false }
    scanFrom (i + 1) (blankOrEnd (some c)) rest acc

/-- The styles a text allows. -/
structure Allowed where
  multiline : Bool
  plain : Bool
  single : Bool
  block : Bool

/-- The styles a text allows: plain when nothing in it reads as syntax or
needs quoting, single quotes unless a space meets a break or a character
is not printable, a block unless it ends in a space or a character is not
printable. The empty text is plain or single-quoted only. -/
def allowed (s : String) : Allowed :=
  let cs := s.toList
  if cs.isEmpty then { multiline := false, plain := true, single := true, block := false }
  else
    let marker := cs.take 3 = ['-', '-', '-'] || cs.take 3 = ['.', '.', '.']
    let r := scanFrom 0 true cs { indicator := marker }
    { multiline := r.lineBreaks
      plain := !(r.leadingBlank || r.trailingSpace || r.trailingBreak || r.breakSpace
        || r.spaceBreak || r.special || r.lineBreaks || r.indicator)
      single := !(r.breakSpace || r.spaceBreak || r.special)
      block := !(r.trailingSpace || r.spaceBreak || r.special) }

/-! ## Texts that read as other values -/

/-- The value of a character as a digit of a radix up to 16. -/
def digitValue (radix : Nat) (c : Char) : Option Nat :=
  let d :=
    if '0' ≤ c && c ≤ '9' then some (c.toNat - '0'.toNat)
    else if 'a' ≤ c && c ≤ 'f' then some (c.toNat - 'a'.toNat + 10)
    else if 'A' ≤ c && c ≤ 'F' then some (c.toNat - 'A'.toNat + 10)
    else none
  d.bind fun v => if v < radix then some v else none

/-- The value of a nonempty string of digits of a radix. -/
def radixValue (radix : Nat) (cs : List Char) : Option Nat :=
  if cs.isEmpty then none
  else cs.foldl (fun acc c => acc.bind fun n => (digitValue radix c).map fun d => n * radix + d) (some 0)

/-- The radix a prefix `0x`, `0o` or `0b` names, and the digits after it. -/
def radixPrefix : List Char → Option (Nat × List Char)
  | '0' :: 'x' :: r => some (16, r)
  | '0' :: 'o' :: r => some (8, r)
  | '0' :: 'b' :: r => some (2, r)
  | _ => none

/-- Drop one leading sign. -/
def dropSign : List Char → List Char
  | '+' :: r | '-' :: r => r
  | r => r

/-- Digits that start with a zero, after an optional sign: text, though
they look like a number. -/
def zeroLed (cs : List Char) : Bool :=
  match dropSign cs with
  | '0' :: d :: r => (d :: r).all Char.isDigit
  | _ => false

/-- A number read, below a bound. -/
def fits : Option Nat → Nat → Bool
  | some n, bound => decide (n < bound)
  | none, _ => false

/-- The text is an integer of at most 128 bits: decimal, or with a prefix
`0x`, `0o` or `0b`; a sign only before the prefix, and at most `2^127` below
zero. -/
def isInteger (cs : List Char) : Bool :=
  let limit := Nat.pow 2 128
  let unsigned := match cs with
    | '+' :: r => r
    | r => r
  let positive :=
    match radixPrefix unsigned with
    | some (radix, r) => fits (radixValue radix r) limit
    | none =>
      match unsigned with
      | '+' :: _ | '-' :: _ => false
      | _ => !zeroLed cs && fits (radixValue 10 unsigned) limit
  let negative :=
    match cs with
    | '-' :: r =>
      match radixPrefix r with
      | some (radix, ds) => fits (radixValue radix ds) (Nat.pow 2 127 + 1)
      | none => !zeroLed cs && fits (radixValue 10 r) (Nat.pow 2 127 + 1)
    | _ => false
  positive || negative

/-- A decimal `digits.digits` with an optional exponent, as a whole
number and a power of ten, when it is one. -/
def decimalParts (cs : List Char) : Option (Nat × Int) :=
  let whole := cs.takeWhile Char.isDigit
  let rest := cs.dropWhile Char.isDigit
  let (frac, rest) := match rest with
    | '.' :: r => (r.takeWhile Char.isDigit, r.dropWhile Char.isDigit)
    | r => ([], r)
  if whole.isEmpty && frac.isEmpty then none
  else
    let exponent : Option Int := match rest with
      | [] => some 0
      | e :: r =>
        if e = 'e' || e = 'E' then
          match r with
          | '+' :: ds => (radixValue 10 ds).map Int.ofNat
          | '-' :: ds => (radixValue 10 ds).map fun n => -(n : Int)
          | ds => (radixValue 10 ds).map Int.ofNat
        else none
    exponent.bind fun e =>
      (radixValue 10 (whole ++ frac)).map fun m => (m, e - frac.length)

/-- The least magnitude that rounds to infinity as a double: halfway
between the largest finite double and `2^1024`. -/
def overflowBound : Nat := Nat.pow 2 1024 - Nat.pow 2 970

/-- The number `m · 10^e` rounds to a finite double. -/
def finiteDecimal (m : Nat) (e : Int) : Bool :=
  if m = 0 then true
  else
    let d : Int := (toString m).length
    if d + e ≤ 308 then true
    else if d - 1 + e ≥ 309 then false
    else if e ≥ 0 then m * Nat.pow 10 e.toNat < overflowBound
    else m < overflowBound * Nat.pow 10 (-e).toNat

/-- The text reads as a float: `.inf`, `-.inf`, `.nan` in their spellings,
or a decimal with an optional sign and exponent that is finite as a
double. -/
def isFloat (s : String) (cs : List Char) : Bool :=
  let unsigned := match cs with
    | '+' :: r => r
    | r => r
  let inf := [".inf", ".Inf", ".INF"].contains (String.ofList unsigned)
    || ["-.inf", "-.Inf", "-.INF", ".nan", ".NaN", ".NAN"].contains s
  let decimal := match unsigned with
    | '+' :: _ => false
    | '-' :: r => ((decimalParts r).map fun (m, e) => finiteDecimal m e).getD false
    | r => ((decimalParts r).map fun (m, e) => finiteDecimal m e).getD false
  let signs := match cs with
    | '+' :: '+' :: _ | '+' :: '-' :: _ => true
    | _ => false
  !signs && (inf || decimal)

/-- The text reads as a value other than a string: null, a boolean, an
integer or a float; or it is digits led by a zero, which are kept quoted. -/
def readsAsOther (s : String) : Bool :=
  let cs := s.toList
  s.isEmpty || ["~", "null", "Null", "NULL", "true", "True", "TRUE", "false", "False", "FALSE"].contains s
    || isInteger cs || zeroLed cs || isFloat s cs

/-! ## Scalars -/

/-- Hexadecimal digits, upper case, padded with zeros to a width. -/
def hexPad (width n : Nat) : String :=
  let ds := Nat.toDigits 16 n
  String.ofList (List.replicate (width - ds.length) '0' ++ ds.map Char.toUpper)

/-- A character double quotes show by an escape. -/
def needsEscape (c : Char) : Bool :=
  !printable c || isBreak c || c = '"' || c = '\\'

/-- A character inside double quotes. -/
def doubleEscape (c : Char) : String :=
  if !needsEscape c then String.singleton c
  else
    match c with
    | '\x00' => "\\0"
    | '\x07' => "\\a"
    | '\x08' => "\\b"
    | '\t' => "\\t"
    | '\n' => "\\n"
    | '\x0b' => "\\v"
    | '\x0c' => "\\f"
    | '\r' => "\\r"
    | '\x1b' => "\\e"
    | '"' => "\\\""
    | '\\' => "\\\\"
    | _ =>
      let n := c.toNat
      if n = 0x85 then "\\N"
      else if n = 0x2028 then "\\L"
      else if n = 0x2029 then "\\P"
      else if n ≤ 0xFF then "\\x" ++ hexPad 2 n
      else if n ≤ 0xFFFF then "\\u" ++ hexPad 4 n
      else "\\U" ++ hexPad 8 n

/-- How a scalar is written. -/
inductive Style where
  | plain
  | single
  | double
  | literal
  deriving DecidableEq

/-- The style a string is written in. A text holding a line feed is a
literal block, any other single-quoted when plain would read as another
value and plain otherwise; then each style gives way to the next that the
text allows: plain to single quotes, single quotes and blocks to double
quotes. A key written inline may not span lines, be a block, or be empty
and plain. -/
def styleOf (s : String) (inlineKey : Bool) : Style :=
  let a := allowed s
  let wanted : Style :=
    if s.contains '\n' then .literal else if readsAsOther s then .single else .plain
  let st := if inlineKey && a.multiline then .double else wanted
  let st := if st = .plain && (!a.plain || (s.isEmpty && inlineKey)) then .single else st
  let st := if st = .single && !a.single then .double else st
  if st = .literal && (!a.block || inlineKey) then .double else st

/-- Spaces of an indentation. -/
def blanks (n : Nat) : String := String.ofList (List.replicate n ' ')

/-- The inside of single quotes: a quote doubled, a line feed after text
written twice, a line after a break indented. -/
def singleBody (indent : Nat) : List Char → Bool → String
  | [], breaks => if breaks then blanks indent else ""
  | c :: rest, breaks =>
    if isBreak c then
      (if !breaks && c = '\n' then "\n" else "") ++ String.singleton c ++ singleBody indent rest true
    else
      (if breaks then blanks indent else "") ++ (if c = '\x27' then "''" else String.singleton c)
        ++ singleBody indent rest false

/-- How a literal block keeps its final line breaks: `-` strips a text
that ends in no break, no mark keeps a single final break, `+` keeps more
than one, or a text that is one break. -/
def chompMark (cs : List Char) : String :=
  match cs.reverse with
  | [] => "-"
  | last :: before =>
    if !isBreak last then "-"
    else match before with
      | [] => "+"
      | p :: _ => if isBreak p then "+" else ""

/-- The header of a literal block after `|`: an indentation of two when the
text starts with a space or a break, then the chomping mark. -/
def literalHeader (cs : List Char) : String :=
  let indentMark := match cs with
    | c :: _ => if c = ' ' || isBreak c then "2" else ""
    | [] => ""
  indentMark ++ chompMark cs

/-- The lines of a literal block: every line that is not empty indented. -/
def literalBody (indent : Nat) : List Char → Bool → String
  | [], _ => ""
  | c :: rest, breaks =>
    if isBreak c then String.singleton c ++ literalBody indent rest true
    else (if breaks then blanks indent else "") ++ String.singleton c ++ literalBody indent rest false

/-- A string as a scalar; lines after the first are indented by `indent`. -/
def scalarText (s : String) (inlineKey : Bool) (indent : Nat) : String :=
  match styleOf s inlineKey with
  | .plain => s
  | .single => "\x27" ++ singleBody indent s.toList false ++ "\x27"
  | .double => "\"" ++ String.join (s.toList.map doubleEscape) ++ "\""
  | .literal => "|" ++ literalHeader s.toList ++ "\n" ++ literalBody indent s.toList true

/-- The line break after a scalar: none when the scalar, a literal block
ending in a break, already ends its line. -/
def lineEnd (s : String) (inlineKey : Bool) : String :=
  if styleOf s inlineKey = .literal && (s.toList.getLast?.map isBreak).getD false then "" else "\n"

/-- A literal block whose final breaks are all kept leaves the document
open, so that a document ending in one is closed by `...`. -/
def keepsBreaks (s : String) : Bool :=
  styleOf s false = .literal && chompMark s.toList = "+"

/-- A value that stands on one line. -/
def atomText : Value → String
  | .null => "null"
  | .bool b => if b then "true" else "false"
  | .nat n => toString n
  | .str s => scalarText s false 2
  | .map _ => "\x7b\x7d"

/-- A key written inline: without line breaks and at most 128 bytes. -/
def inlineKey (k : String) : Bool := !(k.any isBreak) && k.utf8ByteSize ≤ 128

/-! ## Documents -/

/-- The entries of a mapping at an indentation. The first entry starts
with `lead`, the rest with the indentation; every entry ends its line. -/
def entriesText (indent : Nat) (lead : String) : List (String × Value) → String
  | [] => ""
  | (k, v) :: rest =>
    let simple := inlineKey k
    let keyPart :=
      if simple then lead ++ scalarText k true indent ++ ":"
      else lead ++ "? " ++ scalarText k false (indent + 2) ++ lineEnd k false ++ blanks indent ++ ":"
    let valuePart := match v with
      | .map es@(_ :: _) =>
        if simple then "\n" ++ entriesText (indent + 2) (blanks (indent + 2)) es
        else entriesText (indent + 2) " " es
      | .str s => " " ++ scalarText s false (indent + 2) ++ lineEnd s false
      | other => " " ++ atomText other ++ "\n"
    keyPart ++ valuePart ++ entriesText indent (blanks indent) rest

/-- The last value of a mapping, nested mappings entered, is a literal
block that keeps its final breaks. -/
def lastKeeps : List (String × Value) → Bool
  | [] => false
  | [(_, v)] =>
    match v with
    | .str s => keepsBreaks s
    | .map es => lastKeeps es
    | _ => false
  | _ :: rest => lastKeeps rest

/-- A value as a YAML document. -/
def document : Value → String
  | .map es@(_ :: _) => entriesText 0 "" es ++ (if lastKeeps es then "...\n" else "")
  | .str s => scalarText s false 2 ++ lineEnd s false ++ (if keepsBreaks s then "...\n" else "")
  | v => atomText v ++ "\n"

/-- A value as a YAML document, without its final white space. -/
def render (v : Value) : String := trimEnd (document v)

end RoomConsole.Text.Yaml
