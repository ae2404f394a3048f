import RoomConsole.Text.Utf8

/-!
# Percent-encoding

A byte outside a set of safe bytes is written `%XX` with upper-case hex
digits. Each part of a URL has its own set of bytes that must be encoded;
non-ASCII bytes are always encoded, and every set holds the C0 controls and
DEL. Decoding turns each `%XX` with two hex digits back into its byte and
leaves any other `%` as it is.

Form encoding, used for query pairs, keeps ASCII letters, digits and
`* - . _`, writes a space as `+`, and encodes every other byte.
-/

namespace RoomConsole.Url

/-- The bytes a part of a URL must encode. -/
inductive EncodeSet where
  /-- C0 controls and DEL: opaque paths and hosts. -/
  | controls
  /-- Fragments. -/
  | fragment
  /-- Queries of non-special URLs. -/
  | query
  /-- Queries of special URLs. -/
  | specialQuery
  /-- Paths. -/
  | path
  /-- User names and passwords. -/
  | userinfo
  /-- One path segment of a non-special URL. -/
  | pathSegment
  /-- One path segment of a special URL. -/
  | specialPathSegment
  deriving DecidableEq

/-- C0 controls and DEL. -/
def isControl (b : UInt8) : Bool := b < 0x20 || b = 0x7F

/-- The bytes a fragment encodes. -/
def fragmentByte (b : UInt8) : Bool :=
  isControl b || b = 0x20 || b = 0x22 || b = 0x3C || b = 0x3E || b = 0x60

/-- The bytes a query encodes. -/
def queryByte (b : UInt8) : Bool :=
  isControl b || b = 0x20 || b = 0x22 || b = 0x23 || b = 0x3C || b = 0x3E

/-- The bytes a path encodes. -/
def pathByte (b : UInt8) : Bool := fragmentByte b || b = 0x23 || b = 0x3F || b = 0x7B || b = 0x7D

/-- The bytes a path segment encodes. -/
def segmentByte (b : UInt8) : Bool := pathByte b || b = 0x2F || b = 0x25

/-- Whether an ASCII byte is encoded in a set (non-ASCII bytes always are). -/
def EncodeSet.encodes : EncodeSet → UInt8 → Bool
  | .controls, b => isControl b
  | .fragment, b => fragmentByte b
  | .query, b => queryByte b
  | .specialQuery, b => queryByte b || b = 0x27
  | .path, b => pathByte b
  | .userinfo, b => pathByte b || b = 0x2F || b = 0x3A || b = 0x3B || b = 0x3D
      || b = 0x40 || b = 0x5B || b = 0x5C || b = 0x5D || b = 0x5E || b = 0x7C
  | .pathSegment, b => segmentByte b
  | .specialPathSegment, b => segmentByte b || b = 0x5C

/-- Upper-case hexadecimal digits. -/
def hexUpper : List Char := "0123456789ABCDEF".toList

/-- `%XX` for a byte. -/
def escapeByte (b : UInt8) : String :=
  String.ofList ['%', hexUpper.getD (b.toNat / 16) '0', hexUpper.getD (b.toNat % 16) '0']

/-- Encode bytes: those of the set and all non-ASCII ones become `%XX`. -/
def encodeBytes (set : EncodeSet) (bytes : List UInt8) : String :=
  String.join (bytes.map fun b =>
    if b ≥ 0x80 || set.encodes b then escapeByte b else String.singleton (Char.ofNat b.toNat))

/-- Encode the UTF-8 bytes of a text. -/
def encode (set : EncodeSet) (s : String) : String := encodeBytes set (Text.Utf8.encode s)

/-- The value of a hexadecimal digit. -/
def hexDigit? (c : UInt8) : Option Nat :=
  if 0x30 ≤ c && c ≤ 0x39 then some (c.toNat - 0x30)
  else if 0x41 ≤ c && c ≤ 0x46 then some (c.toNat - 0x41 + 10)
  else if 0x61 ≤ c && c ≤ 0x66 then some (c.toNat - 0x61 + 10)
  else none

/-- Decode `%XX` escapes; any other `%` stays. -/
def decodeBytes : List UInt8 → List UInt8
  | b :: h :: l :: rest =>
    match b == 0x25, hexDigit? h, hexDigit? l with
    | true, some x, some y => UInt8.ofNat (x * 16 + y) :: decodeBytes rest
    | _, _, _ => b :: decodeBytes (h :: l :: rest)
  | bytes => bytes

/-- Form-encode a text: a space as `+`, safe bytes kept, the others escaped. -/
def formEncode (s : String) : String :=
  String.join ((Text.Utf8.encode s).map fun b =>
    if b = 0x20 then "+"
    else if (0x30 ≤ b && b ≤ 0x39) || (0x41 ≤ b && b ≤ 0x5A) || (0x61 ≤ b && b ≤ 0x7A)
        || b = 0x2A || b = 0x2D || b = 0x2E || b = 0x5F then String.singleton (Char.ofNat b.toNat)
    else escapeByte b)

end RoomConsole.Url
