import RoomConsole.Completion.Basic

/-!
# Fish completion

The fish script first defines helpers that find the subcommand typed after
the top command's options. Then one `complete` line per option and per
subcommand, each with the condition under which it applies: at the top
command before any subcommand; under a subcommand before any of its own
subcommands; under a subcommand's subcommand. Commands deeper than that get
no lines.

Help texts stand inside single quotes, so a backslash and a quote are
escaped and a line feed becomes a space; a choice also escapes a comma.
-/

namespace RoomConsole.Completion.Fish

open RoomConsole.Cli

/-- A text inside single quotes; `comma` escapes commas too. -/
def escapeText (s : String) (comma : Bool) : String :=
  replaceChars ([('\\', "\\\\"), ('\'', "\\'")] ++ (if comma then [(',', "\\,")] else [])) s

/-- A help text inside single quotes. -/
def escapeHelp (s : String) : String := escapeText (s.replace "\n" " ") false

/-- How an option's value is completed: its choices, each with its help,
else file names for a path, else anything. -/
def valueCompletion (a : Arg) : String :=
  match a.choices with
  | [] => if takesPath a then " -r -F" else " -r"
  | cs =>
    " -r -f -a \"" ++ "\n".intercalate (cs.map fun ch =>
      escapeText ch.name true ++ "\\t'" ++ escapeHelp (ch.help.getD "") ++ "'") ++ "\""

/-- The spellings and help of an option. -/
def describe (a : Arg) : String :=
  (a.short.map fun s => " -s " ++ String.singleton s).getD ""
    ++ (a.long.map fun l => " -l " ++ escapeText l false).getD ""
    ++ (a.help.map fun h => " -d '" ++ escapeHelp h ++ "'").getD ""

/-- The condition under which a command's lines apply, by its path below
the top command; none for a command too deep. -/
def condition (program : String) (c : Command) : List String → Option String
  | [] => some (if c.subcommands.isEmpty then "" else " -n \"__fish_" ++ program ++ "_needs_command\"")
  | [first] =>
    some (" -n \"__fish_" ++ program ++ "_using_subcommand " ++ first
      ++ (if c.subcommands.isEmpty then ""
          else "; and not __fish_seen_subcommand_from" ++ String.join (c.subcommands.map (" " ++ ·.name)))
      ++ "\"")
  | [first, second] =>
    some (" -n \"__fish_" ++ program ++ "_using_subcommand " ++ first
      ++ "; and __fish_seen_subcommand_from " ++ second ++ "\"")
  | _ => none

/-- The lines of a command: its options that take a value, the others, and
its subcommands. `bin` is the program as typed, `program` its name in the
helpers. -/
def linesOf (bin program : String) (s : Site) : List String :=
  let c := s.command
  match condition program c (s.path.drop 1) with
  | none => []
  | some cond =>
    let base := "complete -c " ++ bin ++ cond
    let subBase := base ++ (if (c.args.filter Arg.isPositional).isEmpty then " -f" else "")
    (valued c).map (fun a => base ++ describe a ++ valueCompletion a)
      ++ (switches c).map (fun a => base ++ describe a)
      ++ c.subcommands.map fun sub =>
        subBase ++ " -a \"" ++ sub.name ++ "\"" ++ (sub.about.map fun h => " -d '" ++ escapeHelp h ++ "'").getD ""

/-- How the top command's options are spelled for the helper that skips
them: short and long name, and `=` when a value follows. -/
def optionSpecs (c : Command) : String :=
  String.join (c.options.map fun a =>
    " " ++ (a.short.map String.singleton).getD ""
      ++ (if a.short.isSome && a.long.isSome then "/" else "")
      ++ ((a.long.map (escapeText · false)).getD "")
      ++ (if a.takesValue then "=" else ""))

/-- The helpers that find the subcommand typed. -/
def helpers (program : String) (c : Command) : String :=
  "# Print an optspec for argparse to handle cmd's options that are independent of any subcommand.\n" ++
  "function __fish_" ++ program ++ "_global_optspecs\n" ++
  "    string join \\n" ++ optionSpecs c ++ "\n" ++
  "end\n" ++
  "\n" ++
  "function __fish_" ++ program ++ "_needs_command\n" ++
  "    # Figure out if the current invocation already has a command.\n" ++
  "    set -l cmd (commandline -opc)\n" ++
  "    set -e cmd[1]\n" ++
  "    argparse -s (__fish_" ++ program ++ "_global_optspecs) -- $cmd 2>/dev/null\n" ++
  "    or return\n" ++
  "    if set -q argv[1]\n" ++
  "        # Also print the command, so this can be used to figure out what it is.\n" ++
  "        echo $argv[1]\n" ++
  "        return 1\n" ++
  "    end\n" ++
  "    return 0\n" ++
  "end\n" ++
  "\n" ++
  "function __fish_" ++ program ++ "_using_subcommand\n" ++
  "    set -l cmd (__fish_" ++ program ++ "_needs_command)\n" ++
  "    test -z \"$cmd\"\n" ++
  "    and return 1\n" ++
  "    contains -- $cmd[1] $argv\n" ++
  "end\n" ++
  "\n"

/-- The fish completion script of a program. -/
def script : String :=
  let program := tree.name.replace "-" "_"
  (if tree.subcommands.isEmpty then "" else helpers program tree)
    ++ String.join ((sites.flatMap (linesOf tree.name program)).map (· ++ "\n"))

end RoomConsole.Completion.Fish
