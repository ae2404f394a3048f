/-!
# Display width

How many terminal columns a character takes: none for combining marks,
joiners and other zero-width characters, two for the East Asian wide and
full-width characters (ideographs, kana, Hangul syllables, most emoji), one
for the rest. Control characters take none.

A text's width is the sum of its characters' widths, with ANSI escape
sequences skipped: they select colours and move the cursor but print
nothing.
-/

namespace RoomConsole.Text

/-- A closed range of code points holds `n`. -/
private def withinRanges (n : Nat) : List (Nat × Nat) → Bool
  | [] => false
  | (lo, hi) :: rest => (lo ≤ n && n ≤ hi) || withinRanges n rest

/-- Code points that print nothing: combining marks, joiners, variation
selectors, format characters and the medial Hangul jamo. -/
def zeroWidthRanges : List (Nat × Nat) :=
  [(0x0300, 0x036F), (0x0483, 0x0489), (0x0591, 0x05BD), (0x05BF, 0x05BF), (0x05C1, 0x05C2),
   (0x05C4, 0x05C5), (0x05C7, 0x05C7), (0x0610, 0x061A), (0x064B, 0x065F), (0x0670, 0x0670),
   (0x06D6, 0x06DC), (0x06DF, 0x06E4), (0x06E7, 0x06E8), (0x06EA, 0x06ED), (0x0900, 0x0902),
   (0x093A, 0x093A), (0x093C, 0x093C), (0x0941, 0x0948), (0x094D, 0x094D), (0x0951, 0x0957),
   (0x0E31, 0x0E31), (0x0E34, 0x0E3A), (0x0E47, 0x0E4E), (0x1160, 0x11FF), (0x1AB0, 0x1AFF),
   (0x1DC0, 0x1DFF), (0x200B, 0x200F), (0x202A, 0x202E), (0x2060, 0x2064), (0x20D0, 0x20F0),
   (0x302A, 0x302D), (0x3099, 0x309A), (0xFE00, 0xFE0F), (0xFE20, 0xFE2F), (0xFEFF, 0xFEFF),
   (0x1F3FB, 0x1F3FF), (0xE0000, 0xE0FFF)]

/-- Code points that take two columns: the East Asian wide and full-width
blocks. -/
def wideRanges : List (Nat × Nat) :=
  [(0x1100, 0x115F), (0x231A, 0x231B), (0x2329, 0x232A), (0x23E9, 0x23EC), (0x23F0, 0x23F0),
   (0x23F3, 0x23F3), (0x25FD, 0x25FE), (0x2614, 0x2615), (0x2648, 0x2653), (0x267F, 0x267F),
   (0x2693, 0x2693), (0x26A1, 0x26A1), (0x26AA, 0x26AB), (0x26BD, 0x26BE), (0x26C4, 0x26C5),
   (0x26CE, 0x26CE), (0x26D4, 0x26D4), (0x26EA, 0x26EA), (0x26F2, 0x26F3), (0x26F5, 0x26F5),
   (0x26FA, 0x26FA), (0x26FD, 0x26FD), (0x2705, 0x2705), (0x270A, 0x270B), (0x2728, 0x2728),
   (0x274C, 0x274C), (0x274E, 0x274E), (0x2753, 0x2755), (0x2757, 0x2757), (0x2795, 0x2797),
   (0x27B0, 0x27B0), (0x27BF, 0x27BF), (0x2B1B, 0x2B1C), (0x2B50, 0x2B50), (0x2B55, 0x2B55),
   (0x2E80, 0x303E), (0x3041, 0x3247), (0x3250, 0x4DBF), (0x4E00, 0xA4C6), (0xA960, 0xA97C),
   (0xAC00, 0xD7A3), (0xF900, 0xFAFF), (0xFE10, 0xFE19), (0xFE30, 0xFE6B), (0xFF01, 0xFF60),
   (0xFFE0, 0xFFE6), (0x16FE0, 0x16FE4), (0x17000, 0x18CD5), (0x1B000, 0x1B2FB),
   (0x1F004, 0x1F004), (0x1F0CF, 0x1F0CF), (0x1F18E, 0x1F18E), (0x1F191, 0x1F19A),
   (0x1F200, 0x1F202), (0x1F210, 0x1F23B), (0x1F240, 0x1F248), (0x1F250, 0x1F251),
   (0x1F260, 0x1F265), (0x1F300, 0x1F320), (0x1F32D, 0x1F335), (0x1F337, 0x1F37C),
   (0x1F37E, 0x1F393), (0x1F3A0, 0x1F3CA), (0x1F3CF, 0x1F3D3), (0x1F3E0, 0x1F3F0),
   (0x1F3F4, 0x1F3F4), (0x1F3F8, 0x1F43E), (0x1F440, 0x1F440), (0x1F442, 0x1F4FC),
   (0x1F4FF, 0x1F53D), (0x1F54B, 0x1F54E), (0x1F550, 0x1F567), (0x1F57A, 0x1F57A),
   (0x1F595, 0x1F596), (0x1F5A4, 0x1F5A4), (0x1F5FB, 0x1F64F), (0x1F680, 0x1F6C5),
   (0x1F6CC, 0x1F6CC), (0x1F6D0, 0x1F6D2), (0x1F6D5, 0x1F6D7), (0x1F6DC, 0x1F6DF),
   (0x1F6EB, 0x1F6EC), (0x1F6F4, 0x1F6FC), (0x1F7E0, 0x1F7EB), (0x1F7F0, 0x1F7F0),
   (0x1F90C, 0x1F93A), (0x1F93C, 0x1F945), (0x1F947, 0x1F9FF), (0x1FA70, 0x1FAFF),
   (0x20000, 0x2FFFD), (0x30000, 0x3FFFD)]

/-- The columns a character takes. -/
def charWidth (c : Char) : Nat :=
  let n := c.toNat
  if n < 0x20 || (0x7F ≤ n && n < 0xA0) then 0
  else if n < 0x300 then 1
  else if withinRanges n zeroWidthRanges then 0
  else if withinRanges n wideRanges then 2
  else 1

/-- The rest of a text after an escape sequence that starts it, the escape
character already taken: a control sequence runs to its final byte, an
operating-system command to its bell, anything else is one character. -/
def skipEscape : List Char → List Char
  | '[' :: rest => (rest.dropWhile fun c => !(0x40 ≤ c.toNat && c.toNat ≤ 0x7E)).drop 1
  | ']' :: rest => (rest.dropWhile fun c => c ≠ '\x07').drop 1
  | _ :: rest => rest
  | [] => []

/-- Skipping an escape sequence never lengthens the text. -/
theorem skipEscape_length_le (rest : List Char) : (skipEscape rest).length ≤ rest.length := by
  unfold skipEscape
  split
  · next tail =>
    have := (@List.dropWhile_suffix _ tail (fun c => !(0x40 ≤ c.toNat && c.toNat ≤ 0x7E))).length_le
    simp only [List.length_drop, List.length_cons]; omega
  · next tail =>
    have := (@List.dropWhile_suffix _ tail (fun c => c ≠ '\x07')).length_le
    simp only [List.length_drop, List.length_cons]; omega
  · simp
  · simp

/-- The columns a list of characters takes on a terminal, escape sequences
skipped. -/
def widthOf : List Char → Nat
  | [] => 0
  | '\x1b' :: rest => widthOf (skipEscape rest)
  | c :: rest => charWidth c + widthOf rest
termination_by cs => cs.length
decreasing_by
  all_goals simp_wf
  all_goals first
    | omega
    | (have h := skipEscape_length_le rest; omega)

/-- The columns a text takes on a terminal. -/
def displayWidth (s : String) : Nat := widthOf s.toList

end RoomConsole.Text
