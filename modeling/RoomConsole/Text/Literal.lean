/-!
# Quoted string literals for diagnostics

Diagnostics quote a piece of text the way a programmer would write it as a
literal: between double quotes, with the quote and the backslash escaped,
tab, carriage return, line feed and NUL written `\t \r \n \0`, and every other
character that does not print (the C0 and C1 controls, DEL, the soft hyphen,
combining marks and the format characters) written `\u{hex}` with lower-case
digits and no padding. Everything else stands for itself.
-/

namespace RoomConsole.Text

/-- Lower-case hexadecimal digits of a number, without padding. -/
def hexDigits (n : Nat) : String := String.ofList (Nat.toDigits 16 n)

/-- Whether a character is escaped as `\u{hex}` in a literal: it does not
print, or it extends the grapheme before it. -/
def escapedInLiteral (c : Char) : Bool :=
  let n := c.toNat
  n < 0x20 || (0x7F ≤ n && n ≤ 0x9F) || n = 0xAD
    || (0x300 ≤ n && n ≤ 0x36F)
    || (0x200B ≤ n && n ≤ 0x200F) || (0x2028 ≤ n && n ≤ 0x202E) || (0x2060 ≤ n && n ≤ 0x2064)
    || n = 0xFEFF || (0xFE00 ≤ n && n ≤ 0xFE0F) || (0xE000 ≤ n && n ≤ 0xF8FF)

/-- One character inside a quoted literal. -/
def literalChar (c : Char) : String :=
  if c = '"' then "\\\""
  else if c = '\\' then "\\\\"
  else if c = '\t' then "\\t"
  else if c = '\r' then "\\r"
  else if c = '\n' then "\\n"
  else if c.toNat = 0 then "\\0"
  else if escapedInLiteral c then "\\u" ++ "\x7b" ++ hexDigits c.toNat ++ "\x7d"
  else String.singleton c

/-- The text between double quotes, escaped for a diagnostic. -/
def literal (s : String) : String :=
  "\"" ++ String.join (s.toList.map literalChar) ++ "\""

end RoomConsole.Text
