import RoomConsole.Json.Error
import RoomConsole.Text.Utf8

/-!
# Scanning JSON text

Each scanner reads from a byte index of the text and answers the value it
read with the index after it, or a `Slip`: a fault with the index whose place
the error reports.

Two indices are reported. A fault found on taking a byte is reported at the
index after what was taken; a fault found on *looking* at the next byte
without taking it is reported one byte further (`peekIndex`), or at the end.

Strings are read with their escapes decoded; an escaped surrogate must be a
leading one followed at once by an escaped trailing one. Numbers are read as
`Number`: a whole number without sign that fits 64 bits is `natural`, a
negative one that fits 64 signed bits is `negative`, and the rest become
doubles computed from the decimal significand and exponent.

When a value is only skipped, the rules differ in small ways from reading
it: a number cut off by the end is an invalid number, a control character
in a skipped string is reported at itself, and surrogate escapes are not
checked.
-/

namespace RoomConsole.Json

/-- A fault and the byte index it is reported at. -/
structure Slip where
  fault : Fault
  index : Nat
  /-- Where reading stopped: at the byte looked at, or after the bytes taken. -/
  stop : Nat
  deriving Inhabited

/-- A value read from a byte index, and the index after it. -/
abbrev Scan (α : Type) := Except Slip (α × Nat)

/-- The index reported for a fault seen when looking at the byte at `i`. -/
def peekIndex (bytes : ByteArray) (i : Nat) : Nat := min bytes.size (i + 1)

/-- A fault found on taking bytes up to `i`. -/
def Slip.taken (f : Fault) (i : Nat) : Slip := ⟨f, i, i⟩

/-- A fault found on looking at the byte at `i`. -/
def Slip.seen (bytes : ByteArray) (f : Fault) (i : Nat) : Slip := ⟨f, peekIndex bytes i, i⟩

/-- The error that a slip stands for, placed in the text. -/
def Slip.toError (bytes : ByteArray) (s : Slip) : Error :=
  { fault := s.fault, position := some (Position.ofIndex bytes s.index) }

/-- Space, line feed, tab and carriage return separate tokens. -/
def isBlank (b : UInt8) : Bool := b = 0x20 || b = 0x0A || b = 0x09 || b = 0x0D

/-- An ASCII decimal digit. -/
def isDigit (b : UInt8) : Bool := 0x30 ≤ b && b ≤ 0x39

/-- The value of an ASCII decimal digit. -/
def digitOf (b : UInt8) : Nat := b.toNat - 0x30

/-- The index of the first byte at or after `i` that is not blank. -/
def skipBlanks (bytes : ByteArray) (i : Nat) : Nat :=
  if h : i < bytes.size then
    if isBlank bytes[i] then skipBlanks bytes (i + 1) else i
  else i
termination_by bytes.size - i

/-- The index of the first byte at or after `i` that is not a digit. -/
def skipDigits (bytes : ByteArray) (i : Nat) : Nat :=
  if h : i < bytes.size then
    if isDigit bytes[i] then skipDigits bytes (i + 1) else i
  else i
termination_by bytes.size - i

/-- Whether the byte at `i` is `b`. -/
def byteIs (bytes : ByteArray) (i : Nat) (b : UInt8) : Bool := bytes[i]? == some b

/-- Whether the byte at `i` is a digit. -/
def digitAt (bytes : ByteArray) (i : Nat) : Bool := (bytes[i]?.map isDigit).getD false

/-- The rest of a literal name whose first letter was taken: `ull`, `rue` or `alse`. -/
def scanIdent (bytes : ByteArray) : Nat → List UInt8 → Scan Unit
  | i, [] => .ok ((), i)
  | i, b :: rest =>
    match bytes[i]? with
    | none => .error (Slip.taken .eofInValue i)
    | some c =>
      if c = b then scanIdent bytes (i + 1) rest else .error (Slip.taken .expectedIdent (i + 1))

/-- The bytes of `null` after its first letter. -/
def ullBytes : List UInt8 := [0x75, 0x6C, 0x6C]
/-- The bytes of `true` after its first letter. -/
def rueBytes : List UInt8 := [0x72, 0x75, 0x65]
/-- The bytes of `false` after its first letter. -/
def alseBytes : List UInt8 := [0x61, 0x6C, 0x73, 0x65]

/-! ## Strings -/

/-- The value of a hexadecimal digit, either case. -/
def hexValue (b : UInt8) : Option Nat :=
  if isDigit b then some (digitOf b)
  else if 0x61 ≤ b && b ≤ 0x66 then some (b.toNat - 0x61 + 10)
  else if 0x41 ≤ b && b ≤ 0x46 then some (b.toNat - 0x41 + 10)
  else none

/-- Four hexadecimal digits at `i`. Fewer than four bytes left is an end
inside the string, reported at the end. -/
def scanHex4 (bytes : ByteArray) (i : Nat) : Scan Nat :=
  if i + 4 ≤ bytes.size then
    match [i, i + 1, i + 2, i + 3].map fun k => (bytes[k]?).bind hexValue with
    | [some a, some b, some c, some d] => .ok (((a * 16 + b) * 16 + c) * 16 + d, i + 4)
    | _ => .error (Slip.taken .invalidEscape (i + 4))
  else .error (Slip.taken .eofInString bytes.size)

/-- The byte that a one-letter escape stands for. -/
def simpleEscape (b : UInt8) : Option UInt8 :=
  if b = 0x22 then some 0x22
  else if b = 0x5C then some 0x5C
  else if b = 0x2F then some 0x2F
  else if b = 0x62 then some 0x08
  else if b = 0x66 then some 0x0C
  else if b = 0x6E then some 0x0A
  else if b = 0x72 then some 0x0D
  else if b = 0x74 then some 0x09
  else none

/-- The UTF-8 bytes of a code point. -/
def codePointBytes (n : Nat) : List UInt8 := Text.Utf8.encodeChar (Char.ofNat n)

/-- The character of a `\u` escape whose four digits start at `m`: a
leading surrogate takes the escaped trailing surrogate after it. -/
def scanUnicodeEscape (bytes : ByteArray) (m : Nat) : Scan (List UInt8) :=
  match scanHex4 bytes m with
  | .error s => .error s
  | .ok (n, p) =>
    if 0xDC00 ≤ n ∧ n ≤ 0xDFFF then .error (Slip.taken .loneLeadingSurrogate p)
    else if n < 0xD800 ∨ n > 0xDBFF then .ok (codePointBytes n, p)
    else
      match bytes[p]? with
      | none => .error (Slip.taken .eofInString p)
      | some c =>
        if c ≠ 0x5C then .error (Slip.taken .unexpectedEndOfHexEscape (p + 1))
        else
          match bytes[p + 1]? with
          | none => .error (Slip.taken .eofInString (p + 1))
          | some c₂ =>
            if c₂ ≠ 0x75 then .error (Slip.taken .unexpectedEndOfHexEscape (p + 2))
            else
              match scanHex4 bytes (p + 2) with
              | .error s => .error s
              | .ok (n₂, q) =>
                if n₂ < 0xDC00 ∨ n₂ > 0xDFFF then .error (Slip.taken .loneLeadingSurrogate q)
                else .ok (codePointBytes (0x10000 + (n - 0xD800) * 0x400 + (n₂ - 0xDC00)), q)

/-- The rest of a string whose opening quote is before `i`, decoded, with the
index after the closing quote. `acc` holds the bytes decoded so far. -/
def scanStringFrom (bytes : ByteArray) (i : Nat) (acc : ByteArray) : Scan String :=
  if h : i < bytes.size then
    let b := bytes[i]
    if b = 0x22 then .ok (Text.Utf8.decodeString acc.toList, i + 1)
    else if b = 0x5C then
      match bytes[i + 1]? with
      | none => .error (Slip.taken .eofInString (i + 1))
      | some e =>
        match simpleEscape e with
        | some out => scanStringFrom bytes (i + 2) (acc.push out)
        | none =>
          if e = 0x75 then
            match scanUnicodeEscape bytes (i + 2) with
            | .error s => .error s
            | .ok (out, j) =>
              if i < j then scanStringFrom bytes j (acc ++ ByteArray.mk out.toArray)
              else .error (Slip.taken .invalidEscape j)
          else .error (Slip.taken .invalidEscape (i + 2))
    else if b < 0x20 then .error (Slip.taken .controlCharacter (i + 1))
    else scanStringFrom bytes (i + 1) (acc.push b)
  else .error (Slip.taken .eofInString i)
termination_by bytes.size - i

/-- A string whose opening quote is before `i`. -/
def scanString (bytes : ByteArray) (i : Nat) : Scan String := scanStringFrom bytes i ByteArray.empty

/-- Skip the rest of a string whose opening quote is before `i`. -/
def skipString (bytes : ByteArray) (i : Nat) : Scan Unit :=
  if h : i < bytes.size then
    let b := bytes[i]
    if b = 0x22 then .ok ((), i + 1)
    else if b = 0x5C then
      match bytes[i + 1]? with
      | none => .error (Slip.taken .eofInString (i + 1))
      | some e =>
        if (simpleEscape e).isSome then skipString bytes (i + 2)
        else if e = 0x75 then
          match scanHex4 bytes (i + 2) with
          | .error s => .error s
          | .ok _ => skipString bytes (i + 6)
        else .error (Slip.taken .invalidEscape (i + 2))
    else if b < 0x20 then .error (Slip.taken .controlCharacter i)
    else skipString bytes (i + 1)
  else .error (Slip.taken .eofInString i)
termination_by bytes.size - i

/-! ## Numbers -/

/-- The largest 64-bit unsigned number. -/
def maxU64 : Nat := Nat.pow 2 64 - 1

/-- The largest 32-bit signed number, the bound of exponents. -/
def maxI32 : Int := (Nat.pow 2 31 : Int) - 1

/-- Whether `a * 10 + d` exceeds `max`, tested without computing it. -/
def overflows (a d max : Nat) : Bool := a ≥ max / 10 && (a > max / 10 || d > max % 10)

/-- A 32-bit exponent sum, held at the bounds instead of wrapping. -/
def clampExponent (e : Int) : Int := max (-maxI32 - 1) (min maxI32 e)

/-- The double `10^k`. -/
def pow10 (k : Nat) : Float := Float.ofScientific 1 false k

/-- The double of `significand · 10^exponent`: the significand rounded to a
double, then multiplied or divided by one power of ten. Exponents beyond
±308 divide by `1e308` until they are in range or the value is zero; a
result too large for a double is out of range. -/
def floatOfParts (positive : Bool) (significand : Nat) (exponent : Int) (pos : Nat) :
    Except Slip Float :=
  go significand.toFloat exponent 8
where
  /-- One step of scaling, with fuel enough for any significand below `2^64`. -/
  go (f : Float) (e : Int) : Nat → Except Slip Float
    | 0 => .ok (if positive then f else -f)
    | fuel + 1 =>
      if e.natAbs ≤ 308 then
        if e ≥ 0 then
          let g := f * pow10 e.natAbs
          if g.isInf then .error (Slip.taken .numberOutOfRange pos)
          else .ok (if positive then g else -g)
        else
          let g := f / pow10 e.natAbs
          .ok (if positive then g else -g)
      else if f == 0.0 then .ok (if positive then f else -f)
      else if e ≥ 0 then .error (Slip.taken .numberOutOfRange pos)
      else go (f / pow10 308) (e + 308) fuel

/-- The digits of an exponent from `i`, `exp` holding those read so far. -/
def scanExponentDigits (bytes : ByteArray) (positive zeroSignificand positiveExp : Bool)
    (start : Int) (significand : Nat) (i exp : Nat) : Scan Float :=
  if h : i < bytes.size then
    if isDigit bytes[i] then
      let d := digitOf bytes[i]
      if overflows exp d maxI32.toNat then
        if !zeroSignificand && positiveExp then .error (Slip.taken .numberOutOfRange (i + 1))
        else .ok ((if positive then 0.0 else -0.0), skipDigits bytes (i + 1))
      else scanExponentDigits bytes positive zeroSignificand positiveExp start significand (i + 1)
        (exp * 10 + d)
    else
      let final := clampExponent (if positiveExp then start + exp else start - exp)
      (floatOfParts positive significand final i).map (·, i)
  else
    let final := clampExponent (if positiveExp then start + exp else start - exp)
    (floatOfParts positive significand final i).map (·, i)
termination_by bytes.size - i

/-- An exponent whose mark `e` or `E` is at `i`. -/
def scanExponent (bytes : ByteArray) (positive : Bool) (significand : Nat) (start : Int)
    (i : Nat) : Scan Float :=
  let j := i + 1
  let (positiveExp, k) :=
    if byteIs bytes j 0x2B then (true, j + 1)
    else if byteIs bytes j 0x2D then (false, j + 1)
    else (true, j)
  match bytes[k]? with
  | none => .error (Slip.taken .eofInValue k)
  | some c =>
    if isDigit c then
      scanExponentDigits bytes positive (significand = 0) positiveExp start significand (k + 1)
        (digitOf c)
    else .error (Slip.taken .invalidNumber (k + 1))

/-- Whether the byte at `i` marks an exponent. -/
def exponentAt (bytes : ByteArray) (i : Nat) : Bool := byteIs bytes i 0x65 || byteIs bytes i 0x45

/-- The digits of a fraction from `i`; `places` digits were read after the
point. Digits that would overflow the significand are skipped. -/
def scanFractionDigits (bytes : ByteArray) (positive : Bool) (before : Int)
    (i significand places : Nat) :
    Scan Float :=
  if h : i < bytes.size then
    if isDigit bytes[i] then
      let d := digitOf bytes[i]
      if overflows significand d maxU64 then
        let k := skipDigits bytes i
        let e := before - places
        if exponentAt bytes k then scanExponent bytes positive significand e k
        else (floatOfParts positive significand e k).map (·, k)
      else scanFractionDigits bytes positive before (i + 1) (significand * 10 + d) (places + 1)
    else finish
  else finish
termination_by bytes.size - i
where
  /-- After the last digit: at least one digit is needed. -/
  finish : Scan Float :=
    if places = 0 then
      if i < bytes.size then .error (Slip.seen bytes .invalidNumber i)
      else .error (Slip.seen bytes .eofInValue i)
    else
      let e := before - places
      if exponentAt bytes i then scanExponent bytes positive significand e i
      else (floatOfParts positive significand e i).map (·, i)

/-- Digits past 64 bits of a whole number: each raises the exponent. -/
def scanLongInteger (bytes : ByteArray) (positive : Bool) (significand : Nat) (i exp : Nat) :
    Scan Float :=
  if h : i < bytes.size then
    if isDigit bytes[i] then scanLongInteger bytes positive significand (i + 1) (exp + 1)
    else if bytes[i] = 0x2E then scanFractionDigits bytes positive exp (i + 1) significand 0
    else if exponentAt bytes i then scanExponent bytes positive significand exp i
    else (floatOfParts positive significand exp i).map (·, i)
  else (floatOfParts positive significand exp i).map (·, i)
termination_by bytes.size - i

/-- A whole number with its sign, as classified. -/
def Number.ofWhole (positive : Bool) (n : Nat) : Number :=
  if positive then .natural n
  else if n = 0 then .float (-0.0)
  else if n ≤ Nat.pow 2 63 then .negative (-(n : Int))
  else .float (-n.toFloat)

/-- What follows the digits of the whole part at `i`. -/
def scanNumberTail (bytes : ByteArray) (positive : Bool) (significand i : Nat) : Scan Number :=
  if byteIs bytes i 0x2E then
    (scanFractionDigits bytes positive 0 (i + 1) significand 0).map fun (f, j) => (.float f, j)
  else if exponentAt bytes i then
    (scanExponent bytes positive significand 0 i).map fun (f, j) => (.float f, j)
  else .ok (Number.ofWhole positive significand, i)

/-- The digits of the whole part from `i`. -/
def scanWholeDigits (bytes : ByteArray) (positive : Bool) (i significand : Nat) : Scan Number :=
  if h : i < bytes.size then
    if isDigit bytes[i] then
      let d := digitOf bytes[i]
      if overflows significand d maxU64 then
        (scanLongInteger bytes positive significand i 0).map fun (f, j) => (.float f, j)
      else scanWholeDigits bytes positive (i + 1) (significand * 10 + d)
    else scanNumberTail bytes positive significand i
  else scanNumberTail bytes positive significand i
termination_by bytes.size - i

/-- A number at `i`, its sign already taken. A leading zero stands alone. -/
def scanNumber (bytes : ByteArray) (positive : Bool) (i : Nat) : Scan Number :=
  match bytes[i]? with
  | none => .error (Slip.taken .eofInValue i)
  | some c =>
    if c = 0x30 then
      if digitAt bytes (i + 1) then .error (Slip.seen bytes .invalidNumber (i + 1))
      else scanNumberTail bytes positive 0 (i + 1)
    else if isDigit c then scanWholeDigits bytes positive (i + 1) (digitOf c)
    else .error (Slip.taken .invalidNumber (i + 1))

/-- The index after a byte taken at `i`, if there is one to take. -/
def takenIndex (bytes : ByteArray) (i : Nat) : Nat := if i < bytes.size then i + 1 else i

/-- Skip an exponent whose mark is at `i`. -/
def skipExponent (bytes : ByteArray) (i : Nat) : Scan Unit :=
  let j := i + 1
  let k := if byteIs bytes j 0x2B || byteIs bytes j 0x2D then j + 1 else j
  if digitAt bytes k then .ok ((), skipDigits bytes (k + 1))
  else .error (Slip.taken .invalidNumber (takenIndex bytes k))

/-- Skip a number at `i`, its sign already taken. -/
def skipNumber (bytes : ByteArray) (i : Nat) : Scan Unit :=
  let whole : Except Slip Nat :=
    if byteIs bytes i 0x30 then
      if digitAt bytes (i + 1) then .error (Slip.seen bytes .invalidNumber (i + 1))
      else .ok (i + 1)
    else if digitAt bytes i then .ok (skipDigits bytes (i + 1))
    else .error (Slip.taken .invalidNumber (takenIndex bytes i))
  match whole with
  | .error s => .error s
  | .ok k =>
    if byteIs bytes k 0x2E then
      let m := skipDigits bytes (k + 1)
      if m = k + 1 then .error (Slip.seen bytes .invalidNumber m)
      else if exponentAt bytes m then skipExponent bytes m
      else .ok ((), m)
    else if exponentAt bytes k then skipExponent bytes k
    else .ok ((), k)

/-! ## Ends of containers -/

/-- The end of a list after its last item: `]`; a comma there is a
trailing comma when `]` follows it. -/
def scanListEnd (bytes : ByteArray) (i : Nat) : Scan Unit :=
  let j := skipBlanks bytes i
  match bytes[j]? with
  | none => .error (Slip.seen bytes .eofInList j)
  | some b =>
    if b = 0x5D then .ok ((), j + 1)
    else if b = 0x2C then
      let k := skipBlanks bytes (j + 1)
      if byteIs bytes k 0x5D then .error (Slip.seen bytes .trailingComma k)
      else .error (Slip.seen bytes .trailingCharacters k)
    else .error (Slip.seen bytes .trailingCharacters j)

/-- The end of an object after its last member: `}`. -/
def scanObjectEnd (bytes : ByteArray) (i : Nat) : Scan Unit :=
  let j := skipBlanks bytes i
  match bytes[j]? with
  | none => .error (Slip.seen bytes .eofInObject j)
  | some b =>
    if b = 0x7D then .ok ((), j + 1)
    else if b = 0x2C then .error (Slip.seen bytes .trailingComma j)
    else .error (Slip.seen bytes .trailingCharacters j)

/-- The colon after a key. -/
def scanColon (bytes : ByteArray) (i : Nat) : Scan Unit :=
  let j := skipBlanks bytes i
  match bytes[j]? with
  | none => .error (Slip.seen bytes .eofInObject j)
  | some b => if b = 0x3A then .ok ((), j + 1) else .error (Slip.seen bytes .expectedColon j)

/-- Whether another item follows in a list; `first` holds before the first
item. Answers `true` at the index where the item starts, or `false` at the
closing bracket, which is left for `scanListEnd`. -/
def scanNextItem (bytes : ByteArray) (first : Bool) (i : Nat) : Scan Bool :=
  let j := skipBlanks bytes i
  match bytes[j]? with
  | none => .error (Slip.seen bytes .eofInList j)
  | some b =>
    if b = 0x5D then .ok (false, j)
    else if first then .ok (true, j)
    else if b = 0x2C then
      let k := skipBlanks bytes (j + 1)
      match bytes[k]? with
      | none => .error (Slip.seen bytes .eofInValue k)
      | some c => if c = 0x5D then .error (Slip.seen bytes .trailingComma k) else .ok (true, k)
    else .error (Slip.seen bytes .expectedListCommaOrEnd j)

/-- Whether another member follows in an object; `first` holds before the
first member. Answers `true` at its key's opening quote, or `false` at the
closing brace, which is left for `scanObjectEnd`. -/
def scanNextKey (bytes : ByteArray) (first : Bool) (i : Nat) : Scan Bool :=
  let j := skipBlanks bytes i
  match bytes[j]? with
  | none => .error (Slip.seen bytes .eofInObject j)
  | some b =>
    if b = 0x7D then .ok (false, j)
    else if first then
      if b = 0x22 then .ok (true, j) else .error (Slip.seen bytes .keyMustBeString j)
    else if b = 0x2C then
      let k := skipBlanks bytes (j + 1)
      match bytes[k]? with
      | none => .error (Slip.seen bytes .eofInValue k)
      | some c =>
        if c = 0x22 then .ok (true, k)
        else if c = 0x7D then .error (Slip.seen bytes .trailingComma k)
        else .error (Slip.seen bytes .keyMustBeString k)
    else .error (Slip.seen bytes .expectedObjectCommaOrEnd j)

/-! ## Skipping a value -/

/-- After a value inside the open containers `stack` (innermost first): take
closing brackets, then stop where the next value starts, after its comma
and, inside an object, after its key and colon. Answers the containers still
open there, or `none` with the index after the outermost one closed. -/
def skipClosing (bytes : ByteArray) : Nat → Nat → Bool → List UInt8 →
    Except Slip (Option (List UInt8) × Nat)
  | _, i, _, [] => .ok (none, i)
  | 0, i, _, _ => .error (Slip.taken .eofInValue i)
  | fuel + 1, i, acceptComma, frame :: outer =>
    let j := skipBlanks bytes i
    let closing : UInt8 := if frame = 0x5B then 0x5D else 0x7D
    match bytes[j]? with
    | none => .error (Slip.seen bytes (if frame = 0x5B then .eofInList else .eofInObject) j)
    | some b =>
      if b = 0x2C && acceptComma then keyOf (frame :: outer) (j + 1)
      else if b = closing then
        match outer with
        | [] => .ok (none, j + 1)
        | _ => skipClosing bytes fuel (j + 1) true outer
      else if acceptComma then
        .error (Slip.seen bytes
          (if frame = 0x5B then .expectedListCommaOrEnd else .expectedObjectCommaOrEnd) j)
      else keyOf (frame :: outer) j
where
  /-- Inside an object, the key and the colon before the next value. -/
  keyOf (stack : List UInt8) (k : Nat) : Except Slip (Option (List UInt8) × Nat) :=
    if stack.head? = some 0x7B then
      let j := skipBlanks bytes k
      match bytes[j]? with
      | none => .error (Slip.seen bytes .eofInObject j)
      | some b =>
        if b ≠ 0x22 then .error (Slip.seen bytes .keyMustBeString j)
        else
          match skipString bytes (j + 1) with
          | .error s => .error s
          | .ok ((), m) =>
            match scanColon bytes m with
            | .error s => .error s
            | .ok ((), n) => .ok (some stack, n)
    else .ok (some stack, k)

/-- Skip values from `i`, with the containers `stack` open around them,
until the outermost value ends. -/
def skipValueIn (bytes : ByteArray) : Nat → Nat → List UInt8 → Scan Unit
  | 0, i, _ => .error (Slip.taken .eofInValue i)
  | fuel + 1, i, stack =>
    let j := skipBlanks bytes i
    match bytes[j]? with
    | none => .error (Slip.seen bytes .eofInValue j)
    | some b =>
      let next : Except Slip (Option (List UInt8) × Nat) :=
        if b = 0x5B || b = 0x7B then skipClosing bytes (bytes.size + 1) (j + 1) false (b :: stack)
        else
          let scalar : Scan Unit :=
            if b = 0x6E then scanIdent bytes (j + 1) ullBytes
            else if b = 0x74 then scanIdent bytes (j + 1) rueBytes
            else if b = 0x66 then scanIdent bytes (j + 1) alseBytes
            else if b = 0x2D then skipNumber bytes (j + 1)
            else if isDigit b then skipNumber bytes j
            else if b = 0x22 then skipString bytes (j + 1)
            else .error (Slip.seen bytes .expectedValue j)
          match scalar with
          | .error s => .error s
          | .ok ((), k) => skipClosing bytes (bytes.size + 1) k true stack
      match next with
      | .error s => .error s
      | .ok (none, k) => .ok ((), k)
      | .ok (some stack', k) => skipValueIn bytes fuel k stack'

/-- Skip one value at `i`. -/
def skipValue (bytes : ByteArray) (i : Nat) : Scan Unit := skipValueIn bytes (bytes.size + 1) i []

end RoomConsole.Json
