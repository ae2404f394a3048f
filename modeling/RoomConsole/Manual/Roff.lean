/-!
# Roff — the text of a manual page

A manual page is a list of lines: control lines (`.SH NAME`, `.TP`) and
lines of running text made of roman, bold and italic pieces and line
breaks. `render` is the one place a page becomes text.

Running text is escaped so that the formatter shows it as written: a
backslash is doubled, a hyphen becomes `\-` (a hyphen, not a minus sign the
formatter may stretch), an apostrophe becomes the `Aq` string the page
defines in its first two lines, and a line whose text would start with a
period is protected by a zero-width `\&`. Control lines are written as they
are.
-/

namespace RoomConsole.Manual

/-- A piece of running text. -/
inductive Inline where
  | roman (text : String)
  | bold (text : String)
  | italic (text : String)
  /-- End the output line here: a `.br` request. -/
  | lineBreak
  deriving DecidableEq, Repr

/-- A line of a page. -/
inductive Line where
  /-- A request such as `.TP` or `.SH NAME`, with its arguments. -/
  | control (name : String) (args : List String)
  /-- Running text. -/
  | text (pieces : List Inline)
  deriving DecidableEq, Repr

/-- The first lines of every page: the `Aq` string is a typewriter
apostrophe where the formatter knows one, else a plain one. -/
def preamble : String := ".ie \\n(.g .ds Aq \\(aq\n.el .ds Aq '\n"

/-- A character of running text as the formatter is given it. -/
def escapeChar (c : Char) : String :=
  if c = '\\' then "\\\\"
  else if c = '-' then "\\-"
  else if c = '\'' then "\\*(Aq"
  else String.singleton c

/-- Running text as the formatter is given it; a period after a line feed
is protected. -/
def escape (s : String) : String :=
  (String.join (s.toList.map escapeChar)).replace "\n." "\n\\&."

/-- A text the formatter would read as a request at the start of a line. -/
def startsRequest (s : String) : Bool := s.startsWith "." || s.startsWith "'"

/-- The pieces of a text line, written after one another; `atStart` tells
whether the output line is still empty. -/
def renderPieces : Bool → List Inline → String
  | _, [] => ""
  | atStart, .lineBreak :: rest =>
    (if atStart then ".br\n" else "\n.br\n") ++ renderPieces true rest
  | atStart, .roman t :: rest =>
    let e := escape t
    (if atStart && startsRequest e then "\\&" else "") ++ e ++ renderPieces false rest
  | _, .bold t :: rest => "\\fB" ++ escape t ++ "\\fR" ++ renderPieces false rest
  | _, .italic t :: rest => "\\fI" ++ escape t ++ "\\fR" ++ renderPieces false rest

/-- A line as text, with its line feed. -/
def Line.render : Line → String
  | .control name args => "." ++ name ++ String.join (args.map (" " ++ ·)) ++ "\n"
  | .text pieces => renderPieces true pieces ++ "\n"

/-- A page as text. -/
def render (lines : List Line) : String := preamble ++ String.join (lines.map Line.render)

end RoomConsole.Manual
