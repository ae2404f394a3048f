/-!
# Line break opportunities

Where a line of text may be broken, after the Unicode line breaking
algorithm (UAX #14): every character belongs to a line breaking class, and
the rules of the algorithm, tried in their order, decide for each pair of
neighbours whether a break may fall between them.

This module knows the classes that occur in the text of messages and help
screens: letters, digits, spaces, punctuation, quotation marks, brackets,
the ideographs and kana of East Asian scripts, and combining marks. The
rules are the pairwise ones; the ones about spaces look back to the last
character before the spaces.
-/

namespace RoomConsole.Text

/-- A line breaking class. -/
inductive BreakClass where
  /-- Mandatory break after (form feed, vertical tab, line separator). -/
  | mandatory
  | carriageReturn
  | lineFeed
  | nextLine
  | space
  | zeroWidthSpace
  /-- A combining mark, which goes with the character before it. -/
  | combining
  | zeroWidthJoiner
  | wordJoiner
  /-- Non-breaking glue, such as the no-break space. -/
  | glue
  /-- Closing punctuation: `}` and the like. -/
  | closePunctuation
  /-- Closing parenthesis and bracket. -/
  | closeParenthesis
  /-- `!` and `?`. -/
  | exclamation
  /-- Infix separators: `,` `.` `:` `;`. -/
  | infixSeparator
  /-- The solidus `/`: breaks after it but not before. -/
  | solidus
  /-- Opening punctuation: `(` `[` `{`. -/
  | openPunctuation
  /-- Quotation marks, which hold to both neighbours. -/
  | quotation
  /-- Characters that may not start a line. -/
  | nonstarter
  | hyphen
  /-- Breaks after it, as after a tab or a bar. -/
  | breakAfter
  | breakBefore
  /-- An em dash: breaks on both sides. -/
  | breakBoth
  /-- Ellipsis and leaders, kept together. -/
  | inseparable
  | numeric
  | alphabetic
  /-- Ideographs and kana: a line may break between any two. -/
  | ideographic
  /-- Characters before a number, such as a currency sign or `+`. -/
  | numericLead
  /-- Characters after a number, such as `%` or `°`. -/
  | numericTail
  deriving DecidableEq, Repr

namespace BreakClass

/-- The class of an ASCII character. -/
def ofAscii (c : Char) : BreakClass :=
  let n := c.toNat
  if n = 0x09 then .breakAfter
  else if n = 0x0A then .lineFeed
  else if n = 0x0B || n = 0x0C then .mandatory
  else if n = 0x0D then .carriageReturn
  else if n < 0x20 || n = 0x7F then .combining
  else if c = ' ' then .space
  else if c = '!' || c = '?' then .exclamation
  else if c = '"' || c = '\'' then .quotation
  else if c = '$' || c = '+' || c = '\\' then .numericLead
  else if c = '%' then .numericTail
  else if c = '(' || c = '[' || c = '\x7b' then .openPunctuation
  else if c = ')' || c = ']' then .closeParenthesis
  else if c = '\x7d' then .closePunctuation
  else if c = ',' || c = '.' || c = ':' || c = ';' then .infixSeparator
  else if c = '-' then .hyphen
  else if c = '/' then .solidus
  else if c.isDigit then .numeric
  else if c = '|' then .breakAfter
  else .alphabetic

/-- A closed range of code points holds `n`. -/
private def within (n lo hi : Nat) : Bool := lo ≤ n && n ≤ hi

/-- The class of a character. Characters this module does not list are
alphabetic, which is how the algorithm treats unknown and ambiguous ones. -/
def of (c : Char) : BreakClass :=
  let n := c.toNat
  if n < 0x80 then ofAscii c
  else if n = 0x85 then .nextLine
  else if n = 0xA0 || n = 0x202F || n = 0x2007 || n = 0x2011 then .glue
  else if n = 0xA1 || n = 0xBF then .openPunctuation
  else if n = 0xA2 || n = 0xB0 || n = 0x2030 || n = 0x2103 then .numericTail
  else if within n 0xA3 0xA5 || n = 0xB1 || n = 0x20AC then .numericLead
  else if n = 0xAB || n = 0xBB || within n 0x2018 0x201F || n = 0x2039 || n = 0x203A then .quotation
  else if n = 0xAD || within n 0x2000 0x2006 || within n 0x2008 0x200A || n = 0x2010
    || n = 0x2012 || n = 0x2013 || n = 0x1680 || n = 0x3000 then .breakAfter
  else if n = 0xB4 then .breakBefore
  else if within n 0x0300 0x036F || within n 0x0483 0x0489 || within n 0x0591 0x05C7
    || within n 0x1AB0 0x1AFF || within n 0x1DC0 0x1DFF || within n 0x20D0 0x20F0
    || within n 0xFE00 0xFE0F || within n 0xFE20 0xFE2F || n = 0x200C then .combining
  else if n = 0x200D then .zeroWidthJoiner
  else if n = 0x200B then .zeroWidthSpace
  else if n = 0x2060 || n = 0xFEFF then .wordJoiner
  else if n = 0x2014 then .breakBoth
  else if within n 0x2024 0x2026 then .inseparable
  else if n = 0x2028 then .mandatory
  else if n = 0x3001 || n = 0x3002 || n = 0xFF0C || n = 0xFF0E || n = 0xFF61 || n = 0xFF64 then
    .closePunctuation
  else if n = 0x3008 || n = 0x300A || n = 0x300C || n = 0x300E || n = 0x3010 || n = 0xFF08
    || n = 0xFF3B || n = 0xFF5B then .openPunctuation
  else if n = 0x3009 || n = 0x300B || n = 0x300D || n = 0x300F || n = 0x3011 then .closePunctuation
  else if n = 0xFF09 || n = 0xFF3D then .closeParenthesis
  else if n = 0xFF5D then .closePunctuation
  else if n = 0xFF01 || n = 0xFF1F then .exclamation
  else if n = 0xFF1A || n = 0xFF1B || n = 0x3005 || n = 0x303B || n = 0x309B || n = 0x309C
    || n = 0x309D || n = 0x309E || n = 0x30A0 || n = 0x30FB || n = 0x30FC || n = 0x30FD
    || n = 0x30FE then .nonstarter
  -- small kana may not start a line
  else if n = 0x3041 || n = 0x3043 || n = 0x3045 || n = 0x3047 || n = 0x3049 || n = 0x3063
    || n = 0x3083 || n = 0x3085 || n = 0x3087 || n = 0x308E || n = 0x3095 || n = 0x3096
    || n = 0x30A1 || n = 0x30A3 || n = 0x30A5 || n = 0x30A7 || n = 0x30A9 || n = 0x30C3
    || n = 0x30E3 || n = 0x30E5 || n = 0x30E7 || n = 0x30EE || n = 0x30F5 || n = 0x30F6 then
    .nonstarter
  else if within n 0x2E80 0x2FFF || within n 0x3003 0x3004 || within n 0x3006 0x3007
    || within n 0x3012 0x303A || within n 0x303C 0x30FF || within n 0x3100 0x4DBF
    || within n 0x4E00 0x9FFF || within n 0xA000 0xA4CF || within n 0xAC00 0xD7A3
    || within n 0xF900 0xFAFF || within n 0xFE30 0xFE4F || within n 0xFF00 0xFF60
    || within n 0x1F000 0x1FAFF || within n 0x20000 0x3FFFD then .ideographic
  else .alphabetic

/-- A class after which a combining mark does not attach, and is taken as
a letter of its own. -/
def holdsNoMark : BreakClass → Bool
  | .mandatory | .carriageReturn | .lineFeed | .nextLine | .space | .zeroWidthSpace => true
  | _ => false

/-- No break after a character of class `a` and before one of class `b`,
by the pairwise rules that follow the rules about spaces. -/
def holdsTogether (a b : BreakClass) : Bool :=
  -- quotation marks hold on both sides
  b = .quotation || a = .quotation
  -- characters that break after but not before
  || b = .breakAfter || b = .hyphen || b = .nonstarter || a = .breakBefore
  || b = .inseparable
  -- letters and digits
  || (a = .alphabetic && b = .numeric) || (a = .numeric && b = .alphabetic)
  || (a = .numericLead && b = .ideographic) || (a = .ideographic && b = .numericTail)
  || ((a = .numericLead || a = .numericTail) && b = .alphabetic)
  || (a = .alphabetic && (b = .numericLead || b = .numericTail))
  -- numbers with their signs, units and separators
  || ((a = .closePunctuation || a = .closeParenthesis || a = .numeric)
      && (b = .numericTail || b = .numericLead))
  || ((a = .numericTail || a = .numericLead) && (b = .openPunctuation || b = .numeric))
  || ((a = .hyphen || a = .infixSeparator || a = .numeric || a = .solidus) && b = .numeric)
  || (a = .alphabetic && b = .alphabetic)
  || (a = .infixSeparator && b = .alphabetic)
  || ((a = .alphabetic || a = .numeric) && b = .openPunctuation)
  || (a = .closeParenthesis && (b = .alphabetic || b = .numeric))

/-- Whether a line may break between two neighbours. `a` is the class of the
character before the position (a space, when spaces precede it), `raw` the
class that character had before combining marks were resolved, `b` the class
of the character after it, `beforeSpaces` the class of the last character
before the run of spaces that ends at the position (or `a` without spaces),
and `attaches` says that `b` is a mark that goes with `a`. -/
def allowed (a raw b beforeSpaces : BreakClass) (attaches : Bool) : Bool :=
  if a = .mandatory then true
  else if a = .carriageReturn && b = .lineFeed then false
  else if a = .carriageReturn || a = .lineFeed || a = .nextLine then true
  else if b = .mandatory || b = .carriageReturn || b = .lineFeed || b = .nextLine then false
  else if b = .space || b = .zeroWidthSpace then false
  else if a = .zeroWidthSpace || (a = .space && beforeSpaces = .zeroWidthSpace) then true
  else if raw = .zeroWidthJoiner then false
  else if attaches then false
  else if b = .wordJoiner || a = .wordJoiner then false
  else if a = .glue then false
  else if b = .glue && a ≠ .space && a ≠ .breakAfter && a ≠ .hyphen then false
  else if b = .closePunctuation || b = .closeParenthesis || b = .exclamation
    || b = .infixSeparator || b = .solidus then false
  else if beforeSpaces = .openPunctuation then false
  else if beforeSpaces = .quotation && b = .openPunctuation then false
  else if (beforeSpaces = .closePunctuation || beforeSpaces = .closeParenthesis)
    && b = .nonstarter then false
  else if beforeSpaces = .breakBoth && b = .breakBoth then false
  else if a = .space then true
  else !holdsTogether a b

end BreakClass

/-- The state of a scan for break opportunities: the resolved class of the
last character, its class before resolution, and the class of the last
character that is not a space. -/
structure BreakScan where
  last : BreakClass
  lastRaw : BreakClass
  lastSolid : BreakClass

/-- The positions (counted in characters, from the first character that
follows at least one other) where a line may break, for the rest of a text
after a scan state at position `pos`. -/
def breakScan (pos : Nat) (st : BreakScan) : List Char → List Nat
  | [] => []
  | c :: rest =>
    let raw := BreakClass.of c
    let isMark := raw = .combining || raw = .zeroWidthJoiner
    let attaches := isMark && !st.last.holdsNoMark
    let beforeSpaces := if st.last = .space then st.lastSolid else st.last
    let ok := BreakClass.allowed st.last st.lastRaw raw beforeSpaces attaches
    let resolved := if attaches then st.last else if isMark then .alphabetic else raw
    let st' : BreakScan :=
      { last := resolved, lastRaw := raw,
        lastSolid := if resolved = .space then st.lastSolid else resolved }
    let here := if ok then [pos] else []
    here ++ breakScan (pos + 1) st' rest

/-- The positions inside a text where a line may break: a position `i`
means a break between the characters at `i - 1` and `i`. -/
def breakOpportunities (cs : List Char) : List Nat :=
  match cs with
  | [] => []
  | c :: rest =>
    let raw := BreakClass.of c
    let first := if raw = .combining || raw = .zeroWidthJoiner then .alphabetic else raw
    breakScan 1 { last := first, lastRaw := raw, lastSolid := first } rest

end RoomConsole.Text
