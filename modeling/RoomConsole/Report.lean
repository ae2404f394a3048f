import RoomConsole.Text.Wrap

/-!
# Error reports

A failed command tells the user what went wrong in a report on standard
error: the error's code on a line of its own and a blank line, then the
message after a cross, each further line of it after a bar, then every
underlying cause after an arrow, then the help text after `help:`. Each part
is filled to the terminal's width less two columns.

A report is drawn with Unicode box characters when the terminal can show
them, and with ASCII otherwise; it is coloured when the terminal takes
colour: the code, cross, bars and arrows red, the `help:` label cyan.
-/

namespace RoomConsole

/-- What a report says about an error. -/
structure Diagnostic where
  /-- A stable code naming the kind of error, such as `roomctl::config`. -/
  code : Option String := none
  message : String
  /-- The texts of the errors that caused this one, outermost first. -/
  causes : List String := []
  help : Option String := none

/-- The characters a report is drawn with. -/
structure ReportGlyphs where
  cross : String
  bar : String
  /-- Bends the last cause's arrow down from the bar. -/
  corner : String
  /-- Branches a cause's arrow off the bar when more causes follow. -/
  branch : String
  line : String
  arrow : String

/-- Box-drawing characters. -/
def ReportGlyphs.unicode : ReportGlyphs :=
  { cross := "×", bar := "│", corner := "╰", branch := "├", line := "─", arrow := "▶" }

/-- Plain ASCII characters. -/
def ReportGlyphs.ascii : ReportGlyphs :=
  { cross := "x", bar := "|", corner := "`", branch := "|", line := "-", arrow := ">" }

/-- How a report is drawn. -/
structure ReportStyle where
  glyphs : ReportGlyphs := .unicode
  colored : Bool := false
  /-- The ANSI colour of errors: red, or a true colour. -/
  errorColor : String := "31"
  /-- The ANSI colour of help: cyan, or a true colour. -/
  helpColor : String := "36"
  /-- Columns of the terminal. -/
  width : Nat := 80

/-- A text in an ANSI colour, when colour is on. -/
def ReportStyle.paint (st : ReportStyle) (code : String) (text : String) : String :=
  if st.colored then "\x1b[" ++ code ++ "m" ++ text ++ "\x1b[0m" else text

/-- A text in the colour of errors. -/
def ReportStyle.red (st : ReportStyle) (text : String) : String := st.paint st.errorColor text

/-- The lines about the causes of an error: an arrow before each, the last
one bent down from the bar. -/
def causeLines (st : ReportStyle) : List String → List String
  | [] => []
  | c :: rest =>
    let g := st.glyphs
    let last := rest.isEmpty
    let first := st.red ("  " ++ (if last then g.corner else g.branch) ++ g.line ++ g.arrow ++ " ")
    let next := st.red ("  " ++ (if last then " " else g.bar) ++ "   ")
    Text.fill { width := st.width - 2, initialIndent := first, subsequentIndent := next } c
      :: causeLines st rest

/-- A report on an error, each line ended by a line feed. -/
def Diagnostic.render (st : ReportStyle) (d : Diagnostic) : String :=
  let width := st.width - 2
  let header := match d.code with
    | some code => st.red code ++ "\n\n"
    | none => ""
  let cross := "  " ++ st.red st.glyphs.cross ++ " "
  let bar := "  " ++ st.red st.glyphs.bar ++ " "
  let message := Text.fill { width, initialIndent := cross, subsequentIndent := bar } d.message
  let causes := causeLines st d.causes
  let help := match d.help with
    | some h => [Text.fill { width, initialIndent := st.paint st.helpColor "  help: ",
                             subsequentIndent := "        " } h]
    | none => []
  header ++ String.join ((message :: causes ++ help).map (· ++ "\n"))

end RoomConsole
