import RoomConsole.Cli.Fault
import RoomConsole.Text.Width
import RoomConsole.Text.Space
import RoomConsole.Text.Literal

/-!
# Help screens

A command's help screen is its about text, its usage line, and then three
sections: `Commands:`, `Arguments:` (positional values) and `Options:`.

The short screen (`-h`) puts each argument on one line, its help in a column
after the longest name, followed by `[env: NAME=value]`, `[default: x]` and
`[possible values: …]`. When that column starts far to the right and a help
text would overflow the screen, every help text goes on the line below
instead.

The long screen (`--help`) always puts the help on the line below, indented,
with a blank line between arguments. An argument whose values have help of
their own lists them under `Possible values:`; the environment variable and
default then follow after a blank line.

Help texts are wrapped to the width of the screen at spaces, and continued
lines are indented to the help column.
-/

namespace RoomConsole.Cli

open Text (displayWidth)

/-! ## Wrapping -/

/-- The words of a line: each run of characters other than the space with
the spaces after it; spaces at the start of the line are a word of their
own. -/
def spaceWords : List Char → List Char → Bool → List String
  | [], cur, _ => if cur.isEmpty then [] else [String.ofList cur.reverse]
  | c :: rest, cur, inSpace =>
    if inSpace && c ≠ ' ' then String.ofList cur.reverse :: spaceWords rest [c] false
    else spaceWords rest (c :: cur) (c = ' ')

/-- The state of wrapping carried from one piece of text to the next. -/
structure WrapState where
  /-- The widest a line may be. -/
  width : Nat
  /-- The width of the line so far. -/
  used : Nat := 0
  /-- The indentation the first line started with, repeated after each
  break. -/
  carry : Option String := none

/-- Wrap the words of one line of a piece: a break goes before a word (not
the first of the piece) that would pass the width; the word before the break
loses its trailing spaces, and the new line starts with the carried
indentation. -/
def wrapWords (st : WrapState) (first : Bool) : List String → List String → WrapState × List String
  | [], out => (st, out)
  | w :: rest, out =>
    let trimmed := Text.trimEnd w
    let ww := displayWidth trimmed
    let delta := w.utf8ByteSize - trimmed.utf8ByteSize
    let (st, out) :=
      if !first && st.width < st.used + ww then
        let out := (match out.getLast? with
          | some l => out.dropLast ++ [Text.trimEnd l]
          | none => out) ++ ["\n"]
        match st.carry with
        | some c => ({ st with used := c.utf8ByteSize }, out ++ [c])
        | none => ({ st with used := 0 }, out)
      else (st, out)
    wrapWords { st with used := st.used + ww + delta } false rest (out ++ [w])

/-- Wrap one line of a piece of text. -/
def wrapLine (st : WrapState) (line : String) : WrapState × String :=
  let words := spaceWords line.toList [] false
  let st := match st.carry, words.head? with
    | none, some w => { st with carry := some (if (Text.trim w).isEmpty then w else "") }
    | _, _ => st
  let (st, out) := wrapWords st true words []
  (st, String.join out)

/-- The lines of a text, each with its line break. -/
def linesWithBreaks (s : String) : List String :=
  let rec go : List Char → List Char → List String
    | [], cur => if cur.isEmpty then [] else [String.ofList cur.reverse]
    | c :: rest, cur =>
      if c = '\n' then String.ofList (c :: cur).reverse :: go rest []
      else go rest (c :: cur)
  go s.toList []

/-- Wrap the lines of one piece of text; the line width starts over after
each line break. -/
def wrapPiece (st : WrapState) (s : String) : WrapState × String :=
  let step (acc : WrapState × List String × Bool) (line : String) :=
    let (st, out, later) := acc
    let st := if later then { st with used := 0, carry := none } else st
    let (st, w) := wrapLine st line
    (st, out ++ [w], true)
  let (st, out, _) := (linesWithBreaks s).foldl step (st, [], false)
  (st, String.join out)

/-- The spaces at the end of styled text removed, up to the last span in a
tone that has colour codes. -/
def trimEndPlain (s : Styled) : Styled :=
  let rec go : List Span → List Span
    | [] => []
    | sp :: rest =>
      if !sp.tone.codes.isEmpty && !sp.text.isEmpty then sp :: rest
      else
        let t := Text.trimEnd sp.text
        if t.isEmpty then go rest else { sp with text := t } :: rest
  (go s.reverse).reverse

/-- Wrap styled text to a width, piece by piece. -/
def wrapStyled (width : Nat) (s : Styled) : Styled :=
  let step (acc : WrapState × Styled) (sp : Span) :=
    let (st, out) := acc
    if sp.text.isEmpty then (st, out ++ [sp])
    else
      let (st, t) := wrapPiece st sp.text
      (st, out ++ [{ sp with text := t }])
  trimEndPlain (s.foldl step ({ width }, [])).2

/-- Indent every line after the first. -/
def indentStyled (indent : String) (s : Styled) : Styled :=
  s.map fun sp => { sp with text := String.intercalate ("\n" ++ indent) (sp.text.splitOn "\n") }

/-- Spaces. -/
def spaces (n : Nat) : String := String.ofList (List.replicate n ' ')

/-! ## Arguments -/

/-- A screen's layout: long or short, and its width. -/
structure HelpLayout where
  long : Bool
  width : Nat
  /-- The environment, whose values the screen shows. -/
  env : String → Option String

/-- The values of an argument have help of their own, which the long screen
lists. -/
def HelpLayout.listsChoices (h : HelpLayout) (a : Arg) : Bool :=
  h.long && a.choices.any (·.help.isSome)

/-- What follows an argument's help: its environment variable with the
current value, its default, and the names it takes unless they are listed. -/
def HelpLayout.specValues (h : HelpLayout) (a : Arg) : List String :=
  (match a.env with
    | some e => ["[env: " ++ e ++ "=" ++ (h.env e).getD "" ++ "]"]
    | none => [])
  ++ (match a.defaultValue with
    | some d => if a.takesValue then
        ["[default: " ++ (if d.any Char.isWhitespace then Text.literal d else d) ++ "]"] else []
    | none => [])
  ++ (if !h.listsChoices a && !a.choices.isEmpty then
        ["[possible values: " ++ ", ".intercalate (a.choices.map fun ch => listed ch.name) ++ "]"]
      else [])

/-- The help text an argument shows on this screen. -/
def HelpLayout.helpOf (h : HelpLayout) (a : Arg) : String :=
  (if h.long then a.longHelp.orElse fun _ => a.help else a.help.orElse fun _ => a.longHelp).getD ""

/-- The width of an argument's name and value, as the help column is
measured. -/
def argWidth (a : Arg) : Nat := displayWidth a.display + (if a.isPositional then 0 else 4)

/-- The help column of a section starts after its widest argument: one that
takes a value, is positional, or has no short name. -/
def longestArg (args : List Arg) : Nat :=
  (args.filter fun a => a.takesValue || a.isPositional || a.short.isNone).foldl
    (fun m a => max m (argWidth a)) 2

/-- The help column starts far right (past 40 % of the screen) and a help
text would overflow it. -/
def overflows (width taken helpWidth : Nat) : Bool :=
  width ≥ taken && 5 * taken > 2 * width && helpWidth > width - taken

/-- An argument's help goes on the line below its name. -/
def HelpLayout.argNextLine (h : HelpLayout) (longest : Nat) (a : Arg) : Bool :=
  h.long ||
    let helpWidth := displayWidth (a.help.getD "") + displayWidth (" ".intercalate (h.specValues a))
    let taken := longest + 4 + (if a.isPositional then 0 else 4)
    overflows h.width taken helpWidth

/-- An argument's names as the screen shows them: `-s, --long <VALUE>`,
with four spaces in place of a missing short name. -/
def argHead (a : Arg) : Styled :=
  (match a.short with
    | some s => Styled.tone .literal ("-" ++ String.singleton s)
    | none => if a.long.isSome then Styled.text "    " else [])
  ++ (match a.long with
    | some l => (if a.short.isSome then Styled.text ", " else []) ++ Styled.tone .literal ("--" ++ l)
    | none => [])
  ++ Styled.tone .placeholder (a.valueText a.required)

/-- The `Possible values:` list of the long screen, indented by `indent`. -/
def HelpLayout.choiceList (h : HelpLayout) (indent : Nat) (afterHelp : Bool) (cs : List Choice) : Styled :=
  let longest := cs.foldl (fun m ch => max m (displayWidth ch.name)) 0
  let avail := if h.width > indent + 2 then h.width - (indent + 2) else h.width + indent + 2 + 1000000
  (if afterHelp then Styled.text ("\n\n" ++ spaces indent) else [])
    ++ Styled.text "Possible values:"
    ++ cs.flatMap fun ch =>
      let descr := Styled.tone .literal ch.name ++ (match ch.help with
        | some t => Styled.text (": " ++ spaces (longest - displayWidth ch.name) ++ t)
        | none => [])
      Styled.text ("\n" ++ spaces indent ++ "- ") ++ indentStyled (spaces (indent + 2)) (wrapStyled avail descr)

/-- An argument's help at a column: the help text, the listed values on the
long screen, and the environment, default and values. -/
def HelpLayout.argHelp (h : HelpLayout) (a : Arg) (nextLine : Bool) (longest : Nat) : Styled :=
  let col := if nextLine then 10 else longest + 4
  let about := h.helpOf a
  let specs := h.specValues a
  let wrapAt := fun (s : Styled) => indentStyled (spaces col) (wrapStyled (h.width - col) s)
  let lead := if nextLine then Styled.text ("\n" ++ spaces 10) else []
  if h.long then
    let withChoices := h.listsChoices a
    let first := wrapAt (Styled.text about)
    let choices := if withChoices then h.choiceList col (!about.isEmpty) a.choices else []
    let rest :=
      if specs.isEmpty then []
      else wrapAt (Styled.text ((if about.isEmpty && !withChoices then "" else "\n\n") ++ "\n".intercalate specs))
    lead ++ first ++ choices ++ rest
  else
    lead ++ wrapAt (Styled.text (about ++ (if specs.isEmpty then ""
      else (if about.isEmpty then "" else " ") ++ " ".intercalate specs)))

/-- One argument's entry. -/
def HelpLayout.argEntry (h : HelpLayout) (nextLine : Bool) (longest : Nat) (a : Arg) : Styled :=
  let pad :=
    if h.long || nextLine then 0
    else if a.isPositional then longest + 2 - displayWidth a.display
    else longest + 2 + (if a.long.isSome then 0 else 4) - argWidth a
  Styled.text "  " ++ argHead a ++ Styled.text (spaces pad) ++ h.argHelp a nextLine longest

/-- The order of options: by display place, then by short name (a lower-case
letter before its capital), then long name. -/
def optionKey (a : Arg) : Nat × String :=
  (a.order, match a.short, a.long with
    | some s, _ => String.singleton s.toLower ++ (if s.isLower then "0" else "1")
    | none, some l => l
    | none, none => "\x7b" ++ a.id)

/-- Order pairs of a number and a text. -/
def keyLe (x y : Nat × String) : Bool := x.1 < y.1 || (x.1 = y.1 && decide (x.2 ≤ y.2))

/-- The entries of a section. -/
def HelpLayout.argSection (h : HelpLayout) (args : List Arg) : Styled :=
  let longest := longestArg args
  let nextLine := args.any (h.argNextLine longest)
  let sep := if nextLine && h.long then "\n\n" else "\n"
  ((args.map (h.argEntry nextLine longest)).intersperse (Styled.text sep)).flatten

/-! ## Subcommands -/

/-- The entries of the `Commands:` section: each subcommand's name and
about line, in display order. -/
def HelpLayout.commandSection (h : HelpLayout) (subs : List Command) : Styled :=
  let sorted := subs.mergeSort fun a b => keyLe (a.order, a.name) (b.order, b.name)
  let longest := sorted.foldl (fun m s => max m (displayWidth s.name)) 2
  let aboutOf := fun (s : Command) => (s.about.orElse fun _ => s.longAbout).getD ""
  let nextLine := sorted.any fun s => overflows h.width (longest + 4) (displayWidth (aboutOf s))
  let col := if nextLine then 10 else longest + 4
  let entry := fun (s : Command) =>
    Styled.text "  " ++ Styled.tone .literal s.name
      ++ (if nextLine then Styled.text ("\n" ++ spaces 10)
          else Styled.text (spaces (longest + 2 - displayWidth s.name)))
      ++ indentStyled (spaces col) (wrapStyled (h.width - col) (Styled.text (aboutOf s)))
  ((sorted.map entry).intersperse (Styled.text "\n")).flatten

/-! ## The screen -/

/-- A command's help screen. -/
def HelpLayout.screen (h : HelpLayout) (c : Command) : Styled :=
  let about := if h.long then c.longAbout.orElse fun _ => c.about else c.about
  let aboutPart := match about with
    | some t => wrapStyled h.width (Styled.text t) ++ Styled.text "\n"
    | none => []
  let positional := c.positionals
  let opts := c.options.mergeSort fun a b => keyLe (optionKey a) (optionKey b)
  let sections : List Styled :=
    (if c.subcommands.any (·.name ≠ "help") then
      [Styled.tone .heading "Commands:" ++ Styled.text "\n" ++ h.commandSection c.subcommands] else [])
    ++ (if positional.isEmpty then [] else
      [Styled.tone .heading "Arguments:" ++ Styled.text "\n" ++ h.argSection positional])
    ++ (if opts.isEmpty then [] else
      [Styled.tone .heading "Options:" ++ Styled.text "\n" ++ h.argSection opts])
  trimEndPlain (aboutPart ++ Styled.text "\n" ++ Styled.tone .usage "Usage:" ++ Styled.text " "
    ++ c.helpUsage ++ Styled.text "\n\n" ++ (sections.intersperse (Styled.text "\n\n")).flatten)
    ++ Styled.text "\n"

/-- The version line of a command. -/
def Command.versionLine (c : Command) : String :=
  c.displayName ++ " " ++ c.version.getD "" ++ "\n"

end RoomConsole.Cli
