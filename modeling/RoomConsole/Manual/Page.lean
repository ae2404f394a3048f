import RoomConsole.Manual.Roff
import RoomConsole.Cli.Spec

/-!
# The manual page of a command

A command's page, in section 1: its name and about line, a synopsis of its
arguments, its description, every argument with its help, and its
subcommands and version when it has them.

The synopsis names each option in brackets (angle brackets when it is
required), with `...` after one that counts; then the positional values and
the subcommand slot. Under OPTIONS each option shows its names, the
placeholder of its value and its default, then its help, the values it may
take as a list, and the environment variable it may come from; the
positional values follow the options.
-/

namespace RoomConsole.Manual

open RoomConsole.Cli

/-- The brackets around an argument or the subcommand slot: angle
brackets when it is required. -/
def marks (required : Bool) : String × String :=
  if required then ("<", ">") else ("[", "]")

/-- An option's names as the synopsis writes them, `[-o|--output]`. -/
def synopsisOption (a : Arg) : List Inline :=
  let (l, r) := marks a.required
  let names := match a.short, a.long with
    | some s, some n => [.bold ("-" ++ String.singleton s), .roman "|", .bold ("--" ++ n)]
    | some s, none => [.bold ("-" ++ String.singleton s)]
    | none, some n => [.bold ("--" ++ n)]
    | none, none => []
  [.roman l] ++ names ++ [.roman r] ++ (if a.action = .count then [.roman "..."] else [])
    ++ [.roman " "]

/-- A positional value as the synopsis writes it, `<SHELL>`. -/
def synopsisPositional (a : Arg) : List Inline :=
  let (l, r) := marks a.required
  [.roman l, .italic a.placeholder, .roman r, .roman " "]

/-- The synopsis line. -/
def synopsis (c : Command) : Line :=
  let (l, r) := marks c.subcommandRequired
  .text ([.bold c.name, .roman " "] ++ c.options.flatMap synopsisOption
    ++ (c.args.filter Arg.isPositional).flatMap synopsisPositional
    ++ (if c.subcommands.isEmpty then [] else [.roman l, .italic "subcommands", .roman r]))

/-- The help an argument's entry shows: the long help when it has one. -/
def argHelp (a : Arg) : Option String := a.longHelp.orElse fun _ => a.help

/-- The default an entry shows, for an argument that takes a value. -/
def defaultText (a : Arg) : Option String :=
  if a.takesValue then a.defaultValue.map fun d => "[default: " ++ d ++ "]" else none

/-- A value an argument may take, with its help. -/
def choiceText (ch : Choice) : String :=
  match ch.help with
  | some h => ch.name ++ ": " ++ h
  | none => ch.name

/-- The list of values an argument may take, set off from its help. -/
def choiceLines (a : Arg) : List Line :=
  match a.choices with
  | [] => []
  | cs =>
    (if (argHelp a).isSome then [Line.text [.lineBreak]] else [])
      ++ [.text [.lineBreak, .italic "Possible values:"], .control "RS" ["14"]]
      ++ cs.flatMap (fun ch => [.control "IP" ["\\(bu", "2"], .text [.roman (choiceText ch)]])
      ++ [.control "RE" []]

/-- Where the environment may give the value. -/
def envLines (a : Arg) : List Line :=
  match a.env with
  | some v =>
    [.control "RS" [],
     .text [.roman "May also be specified with the ", .bold v, .roman " environment variable. "],
     .control "RE" []]
  | none => []

/-- The entry of an option. -/
def optionEntry (a : Arg) : List Line :=
  let names : List Inline := match a.short, a.long with
    | some s, some n => [.bold ("-" ++ String.singleton s), .roman ", ", .bold ("--" ++ n)]
    | some s, none => [.bold ("-" ++ String.singleton s)]
    | none, some n => [.bold ("--" ++ n)]
    | none, none => []
  let value : List Inline := if a.takesValue then [.roman " ", .italic ("<" ++ a.placeholder ++ ">")] else []
  let dflt : List Inline := match defaultText a with
    | some d => [.roman " ", .roman d]
    | none => []
  [.control "TP" [], .text (names ++ value ++ dflt),
   .text ((argHelp a).toList.map Inline.roman)] ++ choiceLines a ++ envLines a

/-- The entry of a positional value. -/
def positionalEntry (a : Arg) : List Line :=
  let (l, r) := marks a.required
  let dflt : List Inline := match defaultText a with
    | some d => [.roman (" " ++ d)]
    | none => []
  [.control "TP" [], .text ([.roman l, .italic a.placeholder, .roman r] ++ dflt),
   .text ((argHelp a).toList.map Inline.roman)] ++ envLines a ++ choiceLines a

/-- The lines of a text: split at line feeds, a carriage return before one
dropped, and no empty line after a final line feed. -/
def textLines (s : String) : List String :=
  let pieces := s.splitOn "\n"
  let pieces := if pieces.getLast? = some "" then pieces.dropLast else pieces
  pieces.map fun l => if l.endsWith "\r" then String.ofList (l.toList.dropLast) else l

/-- The lines of a text, one text line each, a blank line starting a new
paragraph. -/
def paragraphs (s : String) : List Line :=
  (textLines s).map fun l =>
    if l.toList.all Char.isWhitespace then .control "PP" [] else .text [.roman l]

/-- The page of a completed command. -/
def page (c : Command) : List Line :=
  let version := c.version.getD ""
  let about := c.about.orElse fun _ => c.longAbout
  [.control "TH" [c.name, "1", "", "\"" ++ c.name ++ " " ++ version ++ "\"", ""],
   .control "SH" ["NAME"],
   .text [.roman (match about with
     | some a => c.name ++ " - " ++ a
     | none => c.name)],
   .control "SH" ["SYNOPSIS"], synopsis c]
  ++ (match c.longAbout.orElse fun _ => c.about with
    | some d => .control "SH" ["DESCRIPTION"] :: paragraphs d
    | none => [])
  ++ (if c.args.isEmpty then []
      else .control "SH" ["OPTIONS"] :: c.options.flatMap optionEntry
        ++ (c.args.filter Arg.isPositional).flatMap positionalEntry)
  ++ (if c.subcommands.isEmpty then []
      else .control "SH" ["SUBCOMMANDS"] :: c.subcommands.flatMap fun s =>
        [.control "TP" [], .text [.roman (c.name ++ "-" ++ s.name ++ "(1)")]]
          ++ (((s.about.orElse fun _ => s.longAbout).map textLines).getD []).map
            fun l => .text [.roman l])
  ++ (match c.version with
    | some v => [.control "SH" ["VERSION"], .text [.roman ("v" ++ v)]]
    | none => [])

/-- The page of a completed command as text. -/
def pageText (c : Command) : String := render (page c)

end RoomConsole.Manual
