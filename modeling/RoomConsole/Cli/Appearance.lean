import RoomConsole.Report
import RoomConsole.Host.Run

/-!
# How output looks

Whether a stream takes colour, which characters reports are drawn with,
and how wide help screens are, from the environment and from whether the
streams are a terminal.

Command-line errors and help are coloured when `CLICOLOR_FORCE` asks for
it, or on a terminal whose `TERM` is set and not `dumb`; `NO_COLOR` and
`CLICOLOR=0` turn colour off. Reports are coloured when `FORCE_COLOR` or
`CLICOLOR_FORCE` asks for it, or on a terminal that names itself, unless
`NO_COLOR` is set or `TERM` is `dumb`; a terminal that announces true
colour gets true-colour reports. Reports use box-drawing characters except
on a terminal whose locale is not UTF-8.
-/

namespace RoomConsole.Cli

open RoomConsole.Host

/-- The environment variable is set and not empty. -/
def setNonEmpty (env : String → Option String) (k : String) : Bool :=
  match env k with
  | some v => !v.isEmpty
  | none => false

/-- Command-line errors and help on a stream are coloured. -/
def streamColored (env : String → Option String) (terminal : Bool) : Bool :=
  if setNonEmpty env "NO_COLOR" then false
  else if (env "CLICOLOR_FORCE").getD "0" ≠ "0" then true
  else if env "CLICOLOR" = some "0" then false
  else terminal && ((match env "TERM" with
      | some t => t ≠ "dumb"
      | none => false) || (env "CLICOLOR").isSome || (env "CI").isSome)

/-- The level of colour a report gets: none, basic, 256 colours or true
colour. -/
def reportColorLevel (env : String → Option String) (terminal : Bool) : Nat :=
  let forced := match env "FORCE_COLOR" with
    | some "true" | some "" => 1
    | some "false" => 0
    | some f => min 3 (f.toNat?.getD 1)
    | none => match env "CLICOLOR_FORCE" with
      | some v => if v ≠ "0" then 1 else 0
      | none => 0
  let term := env "TERM"
  let noColor := match env "NO_COLOR" with
    | some "0" | none => false
    | some _ => true
  let ignoresTerminal := match env "IGNORE_IS_TERMINAL" with
    | some v => v ≠ "0"
    | none => false
  if forced > 0 then forced
  else if noColor || term = some "dumb" || !(terminal || ignoresTerminal) then 0
  else if (match env "COLORTERM" with
      | some c => c = "truecolor" || c = "24bit"
      | none => false)
    || (match term with
      | some t => t.endsWith "-direct" || t.endsWith "-truecolor"
      | none => false)
    || env "TERM_PROGRAM" = some "iTerm.app" then 3
  else if env "TERM_PROGRAM" = some "Apple_Terminal"
    || (match term with
      | some t => t.endsWith "256" || t.endsWith "256color"
      | none => false) then 2
  else if (env "COLORTERM").isSome
    || (match term with
      | some t => t ≠ "dumb" && t ≠ "cygwin"
      | none => false)
    || (match env "CLICOLOR" with
      | some v => v ≠ "0"
      | none => false)
    || (env "CI").isSome then 1
  else 0

/-- The terminal shows Unicode: its locale is UTF-8. -/
def localeUnicode (env : String → Option String) : Bool :=
  if env "TERM" = some "linux" then false
  else
    let ctype := ((env "LC_ALL").orElse fun _ => (env "LC_CTYPE").orElse fun _ => env "LANG").getD ""
    let up := ctype.toUpper
    up.endsWith "UTF8" || up.endsWith "UTF-8"

/-- How reports are drawn on standard error. -/
def reportStyle (env : String → Option String) (terminal : Bool) : ReportStyle :=
  let level := reportColorLevel env terminal
  { glyphs := if !terminal || localeUnicode env then .unicode else .ascii,
    colored := level > 0,
    errorColor := if level ≥ 3 then "38;2;255;30;30" else "31",
    helpColor := if level ≥ 3 then "38;2;106;159;181" else "36" }

/-- The width of help screens: the terminal's, else `COLUMNS`, else 100. -/
def helpWidth (env : String → Option String) (terminal : Bool) : Nat :=
  if terminal then 80
  else ((env "COLUMNS").bind String.toNat?).getD 100

end RoomConsole.Cli
