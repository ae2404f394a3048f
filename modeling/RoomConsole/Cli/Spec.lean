/-!
# Command-line grammar

A command line is read against a tree of commands. A command has arguments
and may have subcommands; an argument is an option (`-s`, `--long`, with or
without a value) or a positional value.

What an argument does when it is given is its `Action`: keep one value, add
a value to a list, set a flag, count, or show help or the version. How its
text is read is its `ValueKind`. An argument may stand for an environment
variable, have a default, be required (always, or unless another argument
is present), conflict with another, and be global: a global argument of a
command may also be given after any of its subcommands.

Every command shows its arguments in a fixed order: options by their
`order` (the order they were declared in, counted together with the
subcommands) and then by their names, positional values by their index.

`Command.build` completes a declared tree the way it is used: global
arguments are copied down to the subcommands that do not declare an
argument of the same name, every command gets `-h`/`--help` and, when it has
a version, `-V`/`--version`, and every command with subcommands gets a
`help` subcommand.
-/

namespace RoomConsole.Cli

/-- What an argument does when it is given. -/
inductive Action where
  /-- Keep one value; giving the argument twice is an error. -/
  | set
  /-- Add one value to a list each time. -/
  | append
  /-- Set a flag; giving it twice is an error. -/
  | flag
  /-- Count how often it is given. -/
  | count
  /-- Show help and stop. -/
  | help
  /-- Show the version and stop. -/
  | version
  deriving DecidableEq, Repr

/-- One of the values an argument may take, with a line of help. -/
structure Choice where
  name : String
  help : Option String := none
  deriving DecidableEq, Repr

/-- How the text of a value is read. -/
inductive ValueKind where
  /-- Any text. -/
  | text
  /-- A file path: any text but the empty one. -/
  | path
  /-- A signed 64-bit integer that must lie in a range. -/
  | bounded (lo hi : Int)
  /-- An unsigned 64-bit integer. -/
  | natural
  /-- One of a list of names. -/
  | choice (choices : List Choice)
  /-- `true` or `false`, the value a flag takes from the environment. -/
  | truth
  deriving DecidableEq, Repr

/-- An argument of a command. -/
structure Arg where
  id : String
  short : Option Char := none
  long : Option String := none
  help : Option String := none
  /-- Help shown only in the long help screen, when it differs. -/
  longHelp : Option String := none
  /-- The placeholder of the value; the upper-cased id when absent. -/
  valueName : Option String := none
  action : Action := .set
  kind : ValueKind := .text
  /-- The environment variable that gives the value when the argument is
  not on the command line. -/
  env : Option String := none
  defaultValue : Option String := none
  required : Bool := false
  isGlobal : Bool := false
  /-- Required unless one of these arguments is present. -/
  requiredUnless : List String := []
  conflicts : List String := []
  /-- Place among the options of a help screen. -/
  order : Nat := 999
  /-- Place among the positional values, counted from one. -/
  index : Option Nat := none
  deriving Repr

namespace Arg

/-- A positional value: neither a short nor a long name. -/
def isPositional (a : Arg) : Bool := a.short.isNone && a.long.isNone

/-- The argument takes a value. -/
def takesValue (a : Arg) : Bool := a.action = .set || a.action = .append

/-- The placeholder of the value. -/
def placeholder (a : Arg) : String := a.valueName.getD a.id.toUpper

/-- The names a choice argument may take; none for other kinds. -/
def choices (a : Arg) : List Choice :=
  if !a.takesValue then []
  else match a.kind with
    | .choice cs => cs
    | .truth => [{ name := "true" }, { name := "false" }]
    | _ => []

/-- The value an argument has when nothing gives it one: its declared
default, `false` for a flag and `0` for a count. -/
def implicitDefault (a : Arg) : Option String :=
  match a.action with
  | .flag => some "false"
  | .count => some "0"
  | _ => a.defaultValue

/-- The argument's name: `--long`, else `-s`, nothing for a positional
value. -/
def nameText (a : Arg) : String :=
  match a.long, a.short with
  | some l, _ => "--" ++ l
  | none, some s => "-" ++ String.singleton s
  | none, none => ""

/-- What follows the argument's name: ` <URL>` for an option's value, `...`
for a count, `<ROOM>` for a required positional value and `[ROOM]` for an
optional one, with `...` after a list. -/
def valueText (a : Arg) (required : Bool) : String :=
  if a.isPositional then
    (if required then "<" ++ a.placeholder ++ ">" else "[" ++ a.placeholder ++ "]")
      ++ (if a.action = .append then "..." else "")
  else if a.takesValue then " <" ++ a.placeholder ++ ">"
  else if a.action = .count then "..."
  else ""

/-- The argument's name followed by its value placeholder, as error messages
and usage lines show it: `--url <URL>`, `--verbose...`, `<ROOM>`, or `[ROOM]`
for an optional positional value. -/
def shown (a : Arg) (required : Bool) : String := a.nameText ++ a.valueText required

/-- The argument as error messages name it. -/
def display (a : Arg) : String := a.shown a.required

end Arg

/-- A command: its arguments and subcommands, and what its help says. -/
structure Command where
  name : String
  about : Option String := none
  longAbout : Option String := none
  version : Option String := none
  /-- Give the subcommands this command's version. -/
  propagateVersion : Bool := false
  /-- Other names the command answers to, not shown in help. -/
  aliases : List String := []
  args : List Arg := []
  subcommands : List Command := []
  subcommandRequired : Bool := false
  /-- Show the help screen when the command is given nothing at all. -/
  helpWhenEmpty : Bool := false
  order : Nat := 999
  /-- Has `-h`/`--help`. -/
  helpFlag : Bool := true
  /-- Has `-V`/`--version`. -/
  versionFlag : Bool := false
  /-- The generated `help` subcommand. -/
  isHelp : Bool := false
  /-- The command line that reaches this command, as usage lines show it. -/
  path : String := ""
  /-- The name the version line shows: the names on the way, joined by
  hyphens. -/
  displayName : String := ""
  deriving Repr

namespace Command

/-- The argument with an id. -/
def findArg (c : Command) (id : String) : Option Arg := c.args.find? (·.id = id)

/-- The argument with a long name. -/
def findLong (c : Command) (l : String) : Option Arg := c.args.find? (·.long = some l)

/-- The argument with a short name. -/
def findShort (c : Command) (s : Char) : Option Arg := c.args.find? (·.short = some s)

/-- The positional value at an index. -/
def positionalAt (c : Command) (i : Nat) : Option Arg := c.args.find? (·.index = some i)

/-- The positional values, by index. -/
def positionals (c : Command) : List Arg :=
  (c.args.filter Arg.isPositional).mergeSort fun a b => a.index.getD 0 ≤ b.index.getD 0

/-- The options. -/
def options (c : Command) : List Arg := c.args.filter fun a => !a.isPositional

/-- The subcommand with a name or alias. -/
def findSubcommand (c : Command) (n : String) : Option Command :=
  c.subcommands.find? fun s => s.name = n || s.aliases.contains n

/-- Every subcommand name and alias, in order. -/
def subcommandNames (c : Command) : List String :=
  c.subcommands.flatMap fun s => s.name :: s.aliases

/-- Number the declared arguments: options take display places in order,
and positional values take indices. The subcommands take the places after
the options. -/
def numbered (c : Command) : Command :=
  let step (acc : Nat × Nat × List Arg) (a : Arg) : Nat × Nat × List Arg :=
    let (place, idx, done) := acc
    if a.isPositional then (place, idx + 1, done ++ [{ a with index := some idx }])
    else (place + 1, idx, done ++ [{ a with order := place }])
  let (place, _, args) := c.args.foldl step (0, 1, [])
  let subs := (List.range c.subcommands.length).zip c.subcommands |>.map fun (i, s) =>
    { s with order := place + i }
  { c with args, subcommands := subs }

/-- Whether there is something only the long help screen shows: a long
about text, or help for the choices of an argument. -/
def hasLongHelp (c : Command) : Bool :=
  c.longAbout.isSome || c.args.any fun a =>
    a.longHelp.isSome || a.choices.any fun ch => ch.help.isSome

/-- The `-h`/`--help` flag; its help points to the other screen when there
is more than one. -/
def helpArg (longExists : Bool) : Arg :=
  if longExists then
    { id := "help", short := some 'h', long := some "help", action := .help,
      help := some "Print help (see more with '--help')",
      longHelp := some "Print help (see a summary with '-h')" }
  else { id := "help", short := some 'h', long := some "help", action := .help,
         help := some "Print help" }

/-- The `-V`/`--version` flag. -/
def versionArg : Arg :=
  { id := "version", short := some 'V', long := some "version", action := .version,
    help := some "Print version" }

/-- The about line of the generated `help` subcommand. -/
def helpAbout : String := "Print this message or the help of the given subcommand(s)"

/-- The `help` subcommand as a parser sees it: it takes the names of the
subcommands to show help for. -/
def helpCommand (path display : String) : Command :=
  { name := "help", about := some helpAbout, helpFlag := false, isHelp := true,
    path := path ++ " help", displayName := display ++ "-help",
    args := [{ id := "subcommand", valueName := some "COMMAND", action := .append,
               help := some "Print help for the subcommand(s)", index := some 1 }] }

mutual

/-- A copy of a subtree under the `help` subcommand: names, about lines and
nesting only, with no help or version flags. -/
def helpCopy : Command → Command
  | ⟨name, about, _, _, _, _, _, subs, _, _, order, _, _, _, _, _⟩ =>
    { name, about, order, helpFlag := false, subcommands := helpCopies subs }

/-- Copies of subtrees under the `help` subcommand. -/
def helpCopies : List Command → List Command
  | [] => []
  | c :: cs => helpCopy c :: helpCopies cs

end

/-- The `help` subcommand as completion scripts and manual pages see it: a
copy of the command's subtree, and a `help` of its own. -/
def helpTree (c : Command) : Command :=
  { name := "help", about := some helpAbout, helpFlag := false, isHelp := true,
    subcommands := helpCopies c.subcommands ++
      [{ name := "help", about := some helpAbout, helpFlag := false }] }

/-- Complete a declared command: take the global arguments of the commands
above it that it does not redeclare, add the help and version flags and the
`help` subcommand, and complete the subcommands with this command's globals.
`inheritedVersion` is the version a command above hands down, which a command
without a version of its own takes. `expand` gives the `help` subcommand a
copy of the tree. -/
def build (expand : Bool) (inherited : List Arg) (inheritedVersion : Option String)
    (path display : String) (c : Command) : Command :=
  let own := c.args ++ inherited.filter fun g => !(c.args.any (·.id = g.id))
  let version := if c.version.isSome then c.version else inheritedVersion
  let propagate := c.propagateVersion || inheritedVersion.isSome
  let shape := { c with args := own, path, displayName := display, version }
  let flags := (if c.helpFlag then [helpArg shape.hasLongHelp] else [])
    ++ (if version.isSome && !c.isHelp then [versionArg] else [])
  let globals := own.filter (·.isGlobal)
  let handed := if propagate then version else none
  let built := c.subcommands.attach.map fun ⟨s, _⟩ =>
    build expand globals handed (path ++ " " ++ s.name) (display ++ "-" ++ s.name) s
  let help :=
    if c.subcommands.isEmpty || c.isHelp then []
    else if expand then [{ helpTree c with path := path ++ " help", displayName := display ++ "-help" }]
    else [helpCommand path display]
  { shape with args := own ++ flags, versionFlag := version.isSome && !c.isHelp,
               propagateVersion := propagate, subcommands := built ++ help }
termination_by sizeOf c
decreasing_by
  rename_i hmem
  have := List.sizeOf_lt_of_mem hmem
  cases c
  simp only [Command.mk.sizeOf_spec] at this ⊢
  omega

end Command

end RoomConsole.Cli
