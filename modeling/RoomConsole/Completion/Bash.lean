import RoomConsole.Completion.Basic

/-!
# Bash completion

The bash script defines one function. It first walks the words typed so
far and finds the command they reach: a table maps a command and a word to
the subcommand the word names. Then, for that command, it offers its
options, the values of its positional choices and its subcommands, or,
right after an option that takes a value, the values of that option (its
choices, else file names).

Each command has a name in the script: the names on its path joined by
`__subcmd__`, with every hyphen inside a name written `__subcmd__` too. The
table is in order of the command's name in the script, then the word; the
commands' cases follow the top command's in order of their names.
-/

namespace RoomConsole.Completion.Bash

open RoomConsole.Cli

/-- The name of a command in the script. -/
def nameOf (path : List String) : String :=
  "__subcmd__".intercalate (path.map fun n => n.replace "-" "__subcmd__")

/-- Everything offered for a command: short options, long options, the
choices of its positional values, its subcommands. -/
def offers (c : Command) : String :=
  " ".intercalate
    (c.options.filterMap (fun a => a.short.map fun s => "-" ++ String.singleton s)
      ++ c.options.filterMap (fun a => a.long.map ("--" ++ ·))
      ++ (c.args.filter Arg.isPositional).flatMap (fun a => a.choices.map (·.name))
      ++ c.subcommands.map (·.name))

/-- What follows an option that takes a value: its choices, else file
names. -/
def valuesFor (a : Arg) : String :=
  match a.choices with
  | [] => "$(compgen -f \"$\x7bcur\x7d\")"
  | cs => "$(compgen -W \"" ++ " ".intercalate (cs.map (·.name)) ++ "\" -- \"$\x7bcur\x7d\")"

/-- The case of one spelling of an option that takes a value. -/
def valueCase (spelling : String) (a : Arg) : String :=
  "\n                " ++ "\n                    ".intercalate
    [spelling ++ ")", "COMPREPLY=(" ++ valuesFor a ++ ")", "return 0", ";;"]

/-- The cases of the options of a command that take a value: each option's
long spelling, then its short one. -/
def valueCases (c : Command) : String :=
  String.join ((valued c).map fun a =>
    (a.long.map fun l => valueCase ("--" ++ l) a).getD ""
      ++ (a.short.map fun s => valueCase ("-" ++ String.singleton s) a).getD "")

/-- The case of a command. -/
def commandCase (s : Site) : String :=
  let c := s.command
  "\n        " ++ nameOf s.path ++ ")\n" ++
  "            opts=\"" ++ offers c ++ "\"\n" ++
  "            if [[ $\x7bcur\x7d == -* || $\x7bCOMP_CWORD\x7d -eq " ++ toString s.path.length ++ " ]] ; then\n" ++
  "                COMPREPLY=( $(compgen -W \"$\x7bopts\x7d\" -- \"$\x7bcur\x7d\") )\n" ++
  "                return 0\n" ++
  "            fi\n" ++
  "            case \"$\x7bprev\x7d\" in" ++ valueCases c ++ "\n" ++
  "                *)\n" ++
  "                    COMPREPLY=()\n" ++
  "                    ;;\n" ++
  "            esac\n" ++
  "            COMPREPLY=( $(compgen -W \"$\x7bopts\x7d\" -- \"$\x7bcur\x7d\") )\n" ++
  "            return 0\n" ++
  "            ;;"

/-- A row of the table: the command's name in the script, the word, and the
name of the subcommand it reaches. -/
def rowsOf (s : Site) : List (String × String × String) :=
  s.command.subcommands.map fun sub => (nameOf s.path, sub.name, nameOf (s.path ++ [sub.name]))

/-- Rows in order of command, then word. -/
def rowLe (x y : String × String × String) : Bool :=
  decide (x.1 < y.1) || (x.1 == y.1 && (decide (x.2.1 < y.2.1) || (x.2.1 == y.2.1 && decide (x.2.2 ≤ y.2.2))))

/-- The table from a command and a word to the subcommand. -/
def table (all : List Site) : String :=
  String.join (((all.flatMap rowsOf).mergeSort rowLe).map fun (parent, word, target) =>
    "\n            " ++ parent ++ "," ++ word ++ ")\n" ++
    "                cmd=\"" ++ target ++ "\"\n" ++
    "                ;;")

/-- The bash completion script of a program. -/
def script : String :=
  let all := sites
  let top := tree.name
  let others := (all.drop 1).mergeSort fun x y => decide (nameOf x.path ≤ nameOf y.path)
  "_" ++ top ++ "() \x7b\n" ++
  "    local i cur prev opts cmd\n" ++
  "    COMPREPLY=()\n" ++
  "    if [[ \"$\x7bBASH_VERSINFO[0]\x7d\" -ge 4 ]]; then\n" ++
  "        cur=\"$2\"\n" ++
  "    else\n" ++
  "        cur=\"$\x7bCOMP_WORDS[COMP_CWORD]\x7d\"\n" ++
  "    fi\n" ++
  "    prev=\"$3\"\n" ++
  "    cmd=\"\"\n" ++
  "    opts=\"\"\n" ++
  "\n" ++
  "    for i in \"$\x7bCOMP_WORDS[@]:0:COMP_CWORD\x7d\"\n" ++
  "    do\n" ++
  "        case \"$\x7bcmd\x7d,$\x7bi\x7d\" in\n" ++
  "            \",$1\")\n" ++
  "                cmd=\"" ++ nameOf [top] ++ "\"\n" ++
  "                ;;" ++ table all ++ "\n" ++
  "            *)\n" ++
  "                ;;\n" ++
  "        esac\n" ++
  "    done\n" ++
  "\n" ++
  "    case \"$\x7bcmd\x7d\" in" ++ String.join ((all.take 1 ++ others).map commandCase) ++ "\n" ++
  "    esac\n" ++
  "\x7d\n" ++
  "\n" ++
  "if [[ \"$\x7bBASH_VERSINFO[0]\x7d\" -eq 4 && \"$\x7bBASH_VERSINFO[1]\x7d\" -ge 4 || \"$\x7bBASH_VERSINFO[0]\x7d\" -gt 4 ]]; then\n" ++
  "    complete -F _" ++ top ++ " -o nosort -o bashdefault -o default " ++ top ++ "\n" ++
  "else\n" ++
  "    complete -F _" ++ top ++ " -o bashdefault -o default " ++ top ++ "\n" ++
  "fi\n"

end RoomConsole.Completion.Bash
