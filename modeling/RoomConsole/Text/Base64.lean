/-!
# Base64

The standard alphabet (`A-Z`, `a-z`, `0-9`, `+`, `/`) with `=` padding.
Encoding takes three bytes to four characters; decoding refuses a
character outside the alphabet, padding anywhere but the end, and a text
whose length is not a multiple of four.
-/

namespace RoomConsole.Text.Base64

/-- The alphabet. -/
def alphabet : List Char := "ABCDEFGHIJKLMNOPQRSTUVWXYZabcdefghijklmnopqrstuvwxyz0123456789+/".toList

/-- The character of a six-bit value. -/
def digit (v : Nat) : Char := alphabet.getD (v % 64) 'A'

/-- The value of a character, if it is in the alphabet. -/
def value? (c : Char) : Option Nat := alphabet.idxOf? c

/-- The encoding of a byte list. -/
def encodeBytes : List UInt8 → List Char
  | [] => []
  | [a] =>
    let n := a.toNat * 65536
    [digit (n / 262144), digit (n / 4096), '=', '=']
  | [a, b] =>
    let n := a.toNat * 65536 + b.toNat * 256
    [digit (n / 262144), digit (n / 4096), digit (n / 64), '=']
  | a :: b :: c :: rest =>
    let n := a.toNat * 65536 + b.toNat * 256 + c.toNat
    [digit (n / 262144), digit (n / 4096), digit (n / 64), digit n] ++ encodeBytes rest

/-- The encoding of a text's UTF-8 bytes. -/
def encode (s : String) : String := String.ofList (encodeBytes s.toUTF8.toList)

/-- Decode groups of four characters. -/
def decodeGroups : List Char → Option (List UInt8)
  | [] => some []
  | [a, b, '=', '='] => do
    let n := (← value? a) * 262144 + (← value? b) * 4096
    pure [(n / 65536).toUInt8]
  | [a, b, c, '='] => do
    let n := (← value? a) * 262144 + (← value? b) * 4096 + (← value? c) * 64
    pure [(n / 65536).toUInt8, (n / 256 % 256).toUInt8]
  | a :: b :: c :: d :: rest => do
    let n := (← value? a) * 262144 + (← value? b) * 4096 + (← value? c) * 64 + (← value? d)
    let tail ← decodeGroups rest
    pure ([(n / 65536).toUInt8, (n / 256 % 256).toUInt8, (n % 256).toUInt8] ++ tail)
  | _ => none

/-- Decode a text, if it is base64. -/
def decode (cs : List Char) : Option (List UInt8) := decodeGroups cs

end RoomConsole.Text.Base64
