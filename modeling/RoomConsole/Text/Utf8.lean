/-!
# UTF-8 with replacement

Bytes from the network are read as UTF-8 where every ill-formed stretch
becomes one U+FFFD. The stretch replaced is the **maximal subpart**: the
longest prefix of a well-formed sequence that the bytes begin, or a single
byte when they begin none. A sequence cut off by the end of the input is one
such stretch.

`decode` is total and structural on the byte list; `encode` is the plain
UTF-8 encoding of a string, and `decode (encode s) = s.toList` is what the
readers of this library rely on when they turn text back into bytes.
-/

namespace RoomConsole.Text.Utf8

/-- The character that stands for an ill-formed stretch of bytes. -/
def replacement : Char := '�'

/-- A continuation byte, `%x80-BF`. -/
def isTail (b : UInt8) : Bool := 0x80 ≤ b && b ≤ 0xBF

/-- For a lead byte: the range the second byte must lie in, and how many
continuation bytes follow the lead byte in all. -/
def leadShape (b : UInt8) : Option (UInt8 × UInt8 × Nat) :=
  if 0xC2 ≤ b && b ≤ 0xDF then some (0x80, 0xBF, 1)
  else if b = 0xE0 then some (0xA0, 0xBF, 2)
  else if (0xE1 ≤ b && b ≤ 0xEC) || (0xEE ≤ b && b ≤ 0xEF) then some (0x80, 0xBF, 2)
  else if b = 0xED then some (0x80, 0x9F, 2)
  else if b = 0xF0 then some (0x90, 0xBF, 3)
  else if 0xF1 ≤ b && b ≤ 0xF3 then some (0x80, 0xBF, 3)
  else if b = 0xF4 then some (0x80, 0x8F, 3)
  else none

/-- The payload bits of a continuation byte. -/
def low6 (b : UInt8) : Nat := b.toNat % 64

/-- The code point of a two-byte sequence. -/
def point2 (a b : UInt8) : Nat := (a.toNat % 32) * 64 + low6 b

/-- The code point of a three-byte sequence. -/
def point3 (a b c : UInt8) : Nat := (a.toNat % 16) * 4096 + low6 b * 64 + low6 c

/-- The code point of a four-byte sequence. -/
def point4 (a b c d : UInt8) : Nat :=
  (a.toNat % 8) * 262144 + low6 b * 4096 + low6 c * 64 + low6 d

/-- The character that a lead byte `b` begins and the bytes after it. -/
def next (b : UInt8) (rest : List UInt8) : Char × List UInt8 :=
  if b < 0x80 then (Char.ofNat b.toNat, rest)
  else
    match leadShape b, rest with
    | none, _ => (replacement, rest)
    | some _, [] => (replacement, [])
    | some (lo, hi, n), c :: rest₁ =>
      if !(lo ≤ c && c ≤ hi) then (replacement, rest)
      else if n = 1 then (Char.ofNat (point2 b c), rest₁)
      else
        match rest₁ with
        | [] => (replacement, [])
        | d :: rest₂ =>
          if !isTail d then (replacement, rest₁)
          else if n = 2 then (Char.ofNat (point3 b c d), rest₂)
          else
            match rest₂ with
            | [] => (replacement, [])
            | e :: rest₃ =>
              if !isTail e then (replacement, rest₂)
              else (Char.ofNat (point4 b c d e), rest₃)

theorem length_next_le (b : UInt8) (rest : List UInt8) : (next b rest).2.length ≤ rest.length := by
  unfold next
  repeat' split
  all_goals simp
  all_goals omega

/-- Read bytes as UTF-8, one U+FFFD for each maximal ill-formed subpart. -/
def decode : List UInt8 → List Char
  | [] => []
  | b :: rest =>
    have := length_next_le b rest
    (next b rest).1 :: decode (next b rest).2
termination_by bs => bs.length

/-- Read bytes as UTF-8 text, replacing ill-formed stretches. -/
def decodeString (bytes : List UInt8) : String := String.ofList (decode bytes)

/-- The UTF-8 bytes of a string. -/
def encode (s : String) : List UInt8 := s.toUTF8.toList

/-- The UTF-8 bytes of one character. -/
def encodeChar (c : Char) : List UInt8 := encode (String.singleton c)

end RoomConsole.Text.Utf8
