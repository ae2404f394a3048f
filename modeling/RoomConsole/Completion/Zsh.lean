import RoomConsole.Completion.Basic

/-!
# Zsh completion

The zsh script describes each command with `_arguments`: one spec per
spelling of each option (those that take a value first, with the
placeholder of the value and how to complete it), then the positional
values, then a slot for the subcommand. Each command with subcommands is
followed by a `case` on the subcommand given, nesting the specs of the
subcommands. After the main function, one function per command lists its
subcommands with their about lines, for `_describe`.

Help texts stand inside single quotes and brackets, so a backslash, a
quote, a bracket, a colon, a dollar sign and a backtick are escaped, and a
line feed becomes a space. A command's function is named by its path joined
by `__subcmd__`; the functions follow the top command's in order of path.
-/

namespace RoomConsole.Completion.Zsh

open RoomConsole.Cli

/-- A help text inside single quotes and brackets. -/
def escapeHelp (s : String) : String :=
  replaceChars [('\\', "\\\\"), ('\'', "'\\''"), ('[', "\\["), (']', "\\]"), (':', "\\:"),
    ('$', "\\$"), ('\x60', "\\\x60"), ('\n', " ")] s

/-- A value inside single quotes and parentheses. -/
def escapeValue (s : String) : String :=
  replaceChars [('\\', "\\\\"), ('\'', "'\\''"), ('[', "\\["), (']', "\\]"), (':', "\\:"),
    ('$', "\\$"), ('\x60', "\\\x60"), ('(', "\\("), (')', "\\)"), (' ', "\\ ")] s

/-- How a value is completed: from its choices (with their help when any
has one), as a file name, or by the shell's default. -/
def valueCompletion (a : Arg) : String :=
  match a.choices with
  | [] => if takesPath a then "_files" else "_default"
  | cs =>
    if cs.any (·.help.isSome) then
      "((" ++ "\n".intercalate (cs.map fun ch =>
        escapeValue ch.name ++ "\\:\"" ++ escapeHelp (ch.help.getD "") ++ "\"") ++ "))"
    else "(" ++ " ".intercalate (cs.map (·.name)) ++ ")"

/-- The options an option excludes, as a spec starts with them. -/
def exclusions (c : Command) (a : Arg) : String :=
  let others := a.conflicts.filterMap c.findArg
  if others.isEmpty then ""
  else "(" ++ " ".intercalate (others.flatMap fun o =>
    (o.short.map fun s => "-" ++ String.singleton s).toList ++ (o.long.map ("--" ++ ·)).toList) ++ ")"

/-- An option may be given more than once. -/
def repeatMark (a : Arg) : String :=
  if a.action = .count || a.action = .append then "*" else ""

/-- The specs of an option that takes a value: short spellings, then long. -/
def valuedSpecs (c : Command) (a : Arg) : List String :=
  let help := escapeHelp (a.help.getD "")
  let value := ":" ++ a.placeholder ++ ":" ++ valueCompletion a
  let head := exclusions c a ++ repeatMark a
  (a.short.map fun s => "'" ++ head ++ "-" ++ String.singleton s ++ "+[" ++ help ++ "]" ++ value ++ "' \\").toList
    ++ (a.long.map fun l => "'" ++ head ++ "--" ++ l ++ "=[" ++ help ++ "]" ++ value ++ "' \\").toList

/-- The specs of an option that takes no value. -/
def switchSpecs (c : Command) (a : Arg) : List String :=
  let help := escapeHelp (a.help.getD "")
  let head := exclusions c a ++ repeatMark a
  (a.short.map fun s => "'" ++ head ++ "-" ++ String.singleton s ++ "[" ++ help ++ "]' \\").toList
    ++ (a.long.map fun l => "'" ++ head ++ "--" ++ l ++ "[" ++ help ++ "]' \\").toList

/-- The spec of a positional value. -/
def positionalSpec (c : Command) (a : Arg) : String :=
  let count :=
    if a.action = .append && c.subcommands.isEmpty then "*:"
    else if !a.required then ":" else ""
  let help := (a.help.map fun h => " -- " ++ h).getD ""
  "'" ++ count ++ ":" ++ a.id
    ++ replaceChars [('[', "\\["), (']', "\\]"), ('\'', "'\\''"), (':', "\\:")] help
    ++ ":" ++ valueCompletion a ++ "' \\"

/-- The name of a command's function: its path joined by `__subcmd__`. -/
def functionName (path : List String) : String := "__subcmd__".intercalate path

/-- The `_arguments` call of a command. -/
def argumentsOf (path : List String) (c : Command) : String :=
  "\n".intercalate
    (["_arguments \"$\x7b_arguments_options[@]\x7d\" : \\"]
      ++ (valued c).flatMap (valuedSpecs c)
      ++ (switches c).flatMap (switchSpecs c)
      ++ (c.args.filter Arg.isPositional).map (positionalSpec c)
      ++ (if c.subcommands.isEmpty then []
          else ["\":: :_" ++ functionName path ++ "_commands\" \\", "\"*::: :->" ++ c.name ++ "\" \\"])
      ++ ["&& ret=0"])

/-- The `case` on the subcommand given, with the specs of each subcommand
and their own cases; nothing for a command without subcommands. -/
def casesOf (path : List String) (c : Command) : String :=
  if c.subcommands.isEmpty then ""
  else
    let branches := c.subcommands.attach.map fun ⟨s, _⟩ =>
      let sub := path ++ [s.name]
      let inner := casesOf sub s
      "(" ++ s.name ++ ")\n" ++ argumentsOf sub s ++ (if inner.isEmpty then "" else "\n" ++ inner) ++ "\n;;"
    "\n    case $state in\n" ++
    "    (" ++ c.name ++ ")\n" ++
    "        words=($line[1] \"$\x7bwords[@]\x7d\")\n" ++
    "        (( CURRENT += 1 ))\n" ++
    "        curcontext=\"$\x7bcurcontext%:*:*\x7d:" ++ "-".intercalate path ++ "-command-$line[1]:\"\n" ++
    "        case $line[1] in\n" ++
    "            " ++ "\n".intercalate branches ++ "\n" ++
    "        esac\n" ++
    "    ;;\n" ++
    "esac"
termination_by sizeOf c
decreasing_by
  rename_i hmem
  have := List.sizeOf_lt_of_mem hmem
  cases c
  simp only [Command.mk.sizeOf_spec] at this ⊢
  omega

/-- The function listing a command's subcommands. -/
def listing (s : Site) : String :=
  let entries := s.command.subcommands.map fun sub =>
    "'" ++ sub.name ++ ":" ++ escapeHelp (sub.about.getD "") ++ "' \\"
  let body := if entries.isEmpty then "" else "\n" ++ "\n".intercalate entries ++ "\n    "
  let fn := functionName s.path
  "(( $+functions[_" ++ fn ++ "_commands] )) ||\n" ++
  "_" ++ fn ++ "_commands() \x7b\n" ++
  "    local commands; commands=(" ++ body ++ ")\n" ++
  "    _describe -t commands '" ++ " ".intercalate s.path ++ " commands' commands \"$@\"\n" ++
  "\x7d"

/-- The zsh completion script of a program. -/
def script : String :=
  let top := tree.name
  let all := sites
  let others := (all.drop 1).mergeSort fun x y => decide (" ".intercalate x.path ≤ " ".intercalate y.path)
  "#compdef " ++ top ++ "\n" ++
  "\n" ++
  "autoload -U is-at-least\n" ++
  "\n" ++
  "_" ++ top ++ "() \x7b\n" ++
  "    typeset -A opt_args\n" ++
  "    typeset -a _arguments_options\n" ++
  "    local ret=1\n" ++
  "\n" ++
  "    if is-at-least 5.2; then\n" ++
  "        _arguments_options=(-s -S -C)\n" ++
  "    else\n" ++
  "        _arguments_options=(-s -C)\n" ++
  "    fi\n" ++
  "\n" ++
  "    local context curcontext=\"$curcontext\" state line\n" ++
  "    " ++ argumentsOf [top] tree ++ casesOf [top] tree ++ "\n" ++
  "\x7d\n" ++
  "\n" ++
  "\n".intercalate ((all.take 1 ++ others).map listing) ++ "\n" ++
  "\n" ++
  "if [ \"$funcstack[1]\" = \"_" ++ top ++ "\" ]; then\n" ++
  "    _" ++ top ++ " \"$@\"\n" ++
  "else\n" ++
  "    compdef _" ++ top ++ " " ++ top ++ "\n" ++
  "fi\n"

end RoomConsole.Completion.Zsh
