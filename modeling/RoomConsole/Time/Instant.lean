import RoomConsole.Text.Space

/-!
# Instants and their RFC 3339 text

An `Instant` is a UTC time: a day counted from 1970-01-01 in the proleptic
Gregorian calendar, the second of that day, and the nanoseconds after it. A
leap second is kept: its nanoseconds run from `10^9` on, after the 59th
second of a minute, and it is written as second `60`.

**Writing** (`Instant.rfc3339`): `YYYY-MM-DDTHH:MM:SS`, a fraction only when
the nanoseconds are not zero (three, six or nine digits, the fewest that
hold them exactly), and `Z`. Years outside 0 to 9999 carry their sign and at
least four digits.

**Reading** (`Instant.parse`) accepts RFC 3339 relaxed in the following
ways: the date and time may be separated by `T`, `t` or a blank; blanks may
stand before each number and around the separators; a year may carry a sign
and then any number of digits; the fraction may have any number of digits,
of which the first nine count; the offset may be `Z`, `UTC` in any case, or
`±HH:MM`, `±HHMM` and `±HH MM`, with `−` (U+2212) for minus. Each number is
checked against its range as it is read (month 1 to 12, day 1 to 31, hour
to 23, minute to 59, second to 60), then the date as a whole; the offset is
applied last. Refusals name the first thing that failed.
-/

namespace RoomConsole.Time

/-- Why a text is not an instant. -/
inductive ParseError where
  /-- A number out of its range, a date that does not exist, or an instant
  outside the calendar's years. -/
  | outOfRange
  | impossible
  | notEnough
  /-- A character that cannot stand where it is. -/
  | invalid
  /-- The text ends too early. -/
  | tooShort
  /-- Characters follow the instant. -/
  | tooLong
  | badFormat
  deriving DecidableEq, Repr

/-- The message of a refusal. -/
def ParseError.message : ParseError → String
  | .outOfRange => "input is out of range"
  | .impossible => "no possible date and time matching input"
  | .notEnough => "input is not enough for unique date and time"
  | .invalid => "input contains invalid characters"
  | .tooShort => "premature end of input"
  | .tooLong => "trailing input"
  | .badFormat => "bad or unsupported format string"

/-! ## The calendar -/

/-- A leap year of the Gregorian calendar. -/
def isLeapYear (y : Int) : Bool := (y % 4 = 0 && y % 100 ≠ 0) || y % 400 = 0

/-- The days of a month. -/
def daysInMonth (y : Int) (m : Nat) : Nat :=
  if m = 2 then (if isLeapYear y then 29 else 28)
  else if m = 4 || m = 6 || m = 9 || m = 11 then 30
  else 31

/-- The first and last years of the calendar. -/
def minYear : Int := -262144
/-- The last year of the calendar. -/
def maxYear : Int := 262143

/-- Days from 1970-01-01 to a date. -/
def daysFromCivil (y : Int) (m d : Nat) : Int :=
  let y := if m ≤ 2 then y - 1 else y
  let era := y / 400
  let yoe := y - era * 400
  let mp : Int := if m > 2 then (m : Int) - 3 else (m : Int) + 9
  let doy := (153 * mp + 2) / 5 + (d : Int) - 1
  let doe := yoe * 365 + yoe / 4 - yoe / 100 + doy
  era * 146097 + doe - 719468

/-- The date of a day counted from 1970-01-01: year, month and day. -/
def civilFromDays (z : Int) : Int × Nat × Nat :=
  let z := z + 719468
  let era := z / 146097
  let doe := z - era * 146097
  let yoe := (doe - doe / 1460 + doe / 36524 - doe / 146096) / 365
  let y := yoe + era * 400
  let doy := doe - (365 * yoe + yoe / 4 - yoe / 100)
  let mp := (5 * doy + 2) / 153
  let d := doy - (153 * mp + 2) / 5 + 1
  let m := if mp < 10 then mp + 3 else mp - 9
  (if m ≤ 2 then y + 1 else y, m.toNat, d.toNat)

/-- An instant in UTC. -/
structure Instant where
  /-- Days from 1970-01-01. -/
  day : Int
  /-- Seconds since midnight, below 86400. -/
  second : Nat
  /-- Nanoseconds after the second; from `10^9` on, inside a leap second. -/
  nano : Nat
  deriving DecidableEq, Repr, Inhabited

/-! ## Writing -/

/-- A number in at least `width` digits, padded with zeros. -/
def padded (width n : Nat) : String :=
  let s := toString n
  String.ofList (List.replicate (width - s.length) '0') ++ s

/-- The year as written: four digits from 0 to 9999, else signed. -/
def yearText (y : Int) : String :=
  if 0 ≤ y ∧ y ≤ 9999 then padded 4 y.toNat
  else (if y < 0 then "-" else "+") ++ padded 4 y.natAbs

/-- The fraction of a second: none for zero, else the fewest of three, six
or nine digits that hold it. -/
def fractionText (nano : Nat) : String :=
  if nano = 0 then ""
  else if nano % 1000000 = 0 then "." ++ padded 3 (nano / 1000000)
  else if nano % 1000 = 0 then "." ++ padded 6 (nano / 1000)
  else "." ++ padded 9 nano

/-- The date and the time of day, a leap second shown as second 60. -/
def Instant.fields (t : Instant) : Int × Nat × Nat × Nat × Nat × Nat × Nat :=
  let (y, m, d) := civilFromDays t.day
  let leap := t.nano ≥ 1000000000
  let sec := t.second % 60 + (if leap then 1 else 0)
  let nano := if leap then t.nano - 1000000000 else t.nano
  (y, m, d, t.second / 3600, t.second / 60 % 60, sec, nano)

/-- RFC 3339 text in UTC. -/
def Instant.rfc3339 (t : Instant) : String :=
  let (y, m, d, hh, mm, ss, nano) := t.fields
  yearText y ++ "-" ++ padded 2 m ++ "-" ++ padded 2 d ++ "T" ++ padded 2 hh ++ ":" ++ padded 2 mm
    ++ ":" ++ padded 2 ss ++ fractionText nano ++ "Z"

/-- `YYYY-MM-DD HH:MM:SS UTC`. -/
def Instant.plain (t : Instant) : String :=
  let (y, m, d, hh, mm, ss, _) := t.fields
  yearText y ++ "-" ++ padded 2 m ++ "-" ++ padded 2 d ++ " " ++ padded 2 hh ++ ":" ++ padded 2 mm
    ++ ":" ++ padded 2 ss ++ " UTC"

/-! ## Reading -/

/-- White space, as Unicode defines it. -/
def isWhite (c : Char) : Bool := Text.isWhiteSpace c

/-- The text after leading white space. -/
def trimWhite (s : List Char) : List Char := s.dropWhile isWhite

/-- The digits read so far, checked against 64 signed bits. -/
def accumulate (n : Nat) (c : Char) : Except ParseError Nat :=
  let v := n * 10 + (c.toNat - 48)
  if v < Nat.pow 2 63 then .ok v else .error .outOfRange

/-- Digits `0`-`9` only. -/
def isAsciiDigit (c : Char) : Bool := '0' ≤ c && c ≤ '9'

/-- Between `min` and `max` digits: their value and the rest. -/
def number (s : List Char) (min max : Nat) : Except ParseError (Nat × List Char) :=
  if s.length < min then .error .tooShort
  else go s 0 0
where
  /-- `i` digits read, with value `n`. -/
  go : List Char → Nat → Nat → Except ParseError (Nat × List Char)
    | [], _, n => .ok (n, [])
    | c :: rest, i, n =>
      if i ≥ max then .ok (n, c :: rest)
      else if isAsciiDigit c then
        match accumulate n c with
        | .ok v => go rest (i + 1) v
        | .error e => .error e
      else if i < min then .error .invalid
      else .ok (n, c :: rest)

/-- What has been read of an instant. -/
structure Parsed where
  year : Int := 0
  month : Nat := 1
  day : Nat := 1
  hour : Nat := 0
  minute : Nat := 0
  second : Nat := 0
  nano : Option Nat := none
  offset : Int := 0

/-- A field in `[lo, hi]`, or out of range. -/
def inRange (lo hi v : Int) : Except ParseError Unit :=
  if lo ≤ v ∧ v ≤ hi then .ok () else .error .outOfRange

/-- A literal character, after nothing. -/
def literal (c : Char) : List Char → Except ParseError (List Char)
  | [] => .error .tooShort
  | d :: rest => if d = c then .ok rest else .error .invalid

/-- A number of the date or time after blanks, checked to `[lo, hi]`. -/
def field (s : List Char) (lo hi : Nat) : Except ParseError (Nat × List Char) := do
  let (v, rest) ← number (trimWhite s) 1 2
  inRange lo hi v
  pure (v, rest)

/-- The year: after blanks, a sign and any number of digits, or four digits. -/
def yearField (s : List Char) : Except ParseError (Int × List Char) := do
  let s := trimWhite s
  let (v, rest) ← match s with
    | '-' :: r => do let (n, r) ← number r 1 (r.length + 1); pure (-(n : Int), r)
    | '+' :: r => do let (n, r) ← number r 1 (r.length + 1); pure ((n : Int), r)
    | _ => do let (n, r) ← number s 1 4; pure ((n : Int), r)
  inRange (-(Nat.pow 2 31 : Int)) ((Nat.pow 2 31 : Int) - 1) v
  pure (v, rest)

/-- Nine digits of a fraction, scaled; further digits are skipped. -/
def fraction (s : List Char) : Except ParseError (Nat × List Char) := do
  let (v, rest) ← number s 1 9
  let used := s.length - rest.length
  pure (v * Nat.pow 10 (9 - used), rest.dropWhile isAsciiDigit)

/-- Two digits of an offset. -/
def offsetDigits (s : List Char) : Except ParseError (Char × Char) :=
  match s with
  | a :: b :: _ => .ok (a, b)
  | _ => .error .tooShort

/-- An offset `±HH[:| ]MM` in seconds, or `Z`. -/
def offset (s : List Char) : Except ParseError (Int × List Char) :=
  match s with
  | 'Z' :: rest => .ok (0, rest)
  | 'z' :: rest => .ok (0, rest)
  | [] => .error .tooShort
  | c :: rest =>
    let sign : Option Int :=
      if c = '+' then some 1 else if c = '-' ∨ c.toNat = 0x2212 then some (-1) else none
    match sign with
    | none => .error .invalid
    | some sg => do
      let (h1, h2) ← offsetDigits rest
      if !(isAsciiDigit h1 && isAsciiDigit h2) then throw .invalid
      let hours := (h1.toNat - 48) * 10 + (h2.toNat - 48)
      let s := (rest.drop 2).dropWhile fun c => c = ':' || isWhite c
      let minutes ← match s with
        | m1 :: m2 :: _ =>
          if '0' ≤ m1 && m1 ≤ '5' && isAsciiDigit m2 then pure ((m1.toNat - 48) * 10 + (m2.toNat - 48))
          else if '6' ≤ m1 && m1 ≤ '9' && isAsciiDigit m2 then throw .outOfRange
          else throw .invalid
        | _ => throw .tooShort
      pure (sg * ((hours * 3600 + minutes * 60 : Nat) : Int), s.drop 2)

/-- Whether the text starts with `UTC` in any case. -/
def startsWithUtc : List Char → Bool
  | a :: b :: c :: _ => a.toUpper = 'U' && b.toUpper = 'T' && c.toUpper = 'C'
  | _ => false

/-- The fields of a relaxed RFC 3339 text and what follows them. -/
def scan (s : List Char) : Except ParseError (Parsed × List Char) := do
  let (year, s) ← yearField s
  let s ← literal '-' (trimWhite s)
  let (month, s) ← field s 1 12
  let s ← literal '-' (trimWhite s)
  let (day, s) ← field s 1 31
  let s ← match s with
    | c :: rest => if c = 'T' || c = 't' || c = ' ' then pure rest else throw .invalid
    | [] => throw .tooShort
  let (hour, s) ← field s 0 23
  let s ← literal ':' (trimWhite s)
  let (minute, s) ← field s 0 59
  let s ← literal ':' (trimWhite s)
  let (second, s) ← field s 0 60
  let (nano, s) ← match s with
    | '.' :: rest => do let (n, r) ← fraction rest; pure (some n, r)
    | _ => pure (none, s)
  let s := trimWhite s
  let (off, s) ← if startsWithUtc s then pure (0, s.drop 3) else offset s
  pure ({ year, month, day, hour, minute, second, nano, offset := off }, s)

/-- The instant of checked fields: the date must exist, and the instant
after the offset must lie within the calendar. -/
def Parsed.toInstant (p : Parsed) : Except ParseError Instant := do
  if p.year < minYear ∨ p.year > maxYear ∨ p.day > daysInMonth p.year p.month then
    throw .outOfRange
  let (sec, leapNano) := if p.second = 60 then (59, 1000000000) else (p.second, 0)
  let nano := leapNano + p.nano.getD 0
  if p.offset ≤ -86400 ∨ p.offset ≥ 86400 then throw .outOfRange
  let local_ : Int := (p.hour * 3600 + p.minute * 60 + sec : Nat)
  let utc := local_ - p.offset
  let day := daysFromCivil p.year p.month p.day + utc / 86400
  let (y, _, _) := civilFromDays day
  if y < minYear ∨ y > maxYear then throw .outOfRange
  pure { day, second := (utc % 86400).toNat, nano }

/-- Read an instant from relaxed RFC 3339 text. -/
def Instant.parse (text : String) : Except ParseError Instant := do
  let (p, rest) ← scan text.toList
  if !(trimWhite rest).isEmpty then throw .tooLong
  p.toInstant

end RoomConsole.Time
