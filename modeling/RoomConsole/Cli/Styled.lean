/-!
# Styled text

Help screens and error messages of the command line are made of spans of
text, each in a tone: headings, the word `error:`, literal names the user can
type, placeholders, values that are valid and values that are not. On a
terminal that takes colour the tones become ANSI styles; elsewhere only the
text is printed.
-/

namespace RoomConsole.Cli

/-- The tone of a span of text. -/
inductive Tone where
  | plain
  /-- Section headings such as `Options:`. -/
  | heading
  /-- The `error:` label. -/
  | error
  /-- The `Usage:` label. -/
  | usage
  /-- Names the user can type: commands, options. -/
  | literal
  /-- Placeholders for values, such as `<URL>`. -/
  | placeholder
  /-- Valid values and suggestions. -/
  | valid
  /-- The value or argument that was wrong. -/
  | invalid
  deriving DecidableEq, Repr

/-- The ANSI codes that start a tone; none for plain text. -/
def Tone.codes : Tone → String
  | .plain | .placeholder => ""
  | .heading | .usage => "\x1b[1m\x1b[4m"
  | .error => "\x1b[1m\x1b[31m"
  | .literal => "\x1b[1m"
  | .valid => "\x1b[32m"
  | .invalid => "\x1b[33m"

/-- A span of text in one tone. -/
structure Span where
  tone : Tone
  text : String
  deriving Repr

/-- Text made of spans. -/
abbrev Styled := List Span

namespace Styled

/-- Plain text. -/
def text (s : String) : Styled := [⟨.plain, s⟩]

/-- Text in a tone. -/
def tone (t : Tone) (s : String) : Styled := [⟨t, s⟩]

/-- The text without its tones. -/
def plain (s : Styled) : String := String.join (s.map (·.text))

/-- The text with ANSI styles: each span in a tone is started by its codes
and ended by a reset. -/
def ansi (s : Styled) : String :=
  String.join (s.map fun sp =>
    let c := sp.tone.codes
    if c.isEmpty || sp.text.isEmpty then sp.text else c ++ sp.text ++ "\x1b[0m")

/-- The text, with or without colour. -/
def render (colored : Bool) (s : Styled) : String := if colored then s.ansi else s.plain

/-- The text with the spaces and line breaks at its end removed. -/
def trimEnd (s : Styled) : Styled :=
  let rec go : List Span → List Span
    | [] => []
    | sp :: rest =>
      let t := String.ofList (sp.text.toList.reverse.dropWhile Char.isWhitespace).reverse
      if t.isEmpty then go rest else { sp with text := t } :: rest
  (go s.reverse).reverse

end Styled

end RoomConsole.Cli
