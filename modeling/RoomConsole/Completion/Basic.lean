import RoomConsole.Cli.Tree

/-!
# The command tree as completion scripts see it

Completion scripts are written from the completed command tree in which the
`help` subcommand holds a copy of the tree below it, so that a shell can
complete `roomctl help rooms list` too. A script walks the tree command by
command, each command with the names on the way to it, and completes the
options of each command (those that take a value, then those that do not),
the values an option may take, and the subcommands.
-/

namespace RoomConsole.Completion

open RoomConsole.Cli

/-- The tree completion scripts describe. -/
def tree : Command := Command.build true [] none declared.name declared.name declared

/-- A command of the tree with the names on the way to it, its own last. -/
structure Site where
  path : List String
  command : Command

/-- Every command below a command, each before its subcommands, with its
path. -/
def sitesFrom (path : List String) (c : Command) : List Site :=
  ⟨path, c⟩ :: c.subcommands.attach.flatMap fun ⟨s, _⟩ => sitesFrom (path ++ [s.name]) s
termination_by sizeOf c
decreasing_by
  rename_i hmem
  have := List.sizeOf_lt_of_mem hmem
  cases c
  simp only [Command.mk.sizeOf_spec] at this ⊢
  omega

/-- Every command of the tree with its path, the top command first. -/
def sites : List Site := sitesFrom [tree.name] tree

/-- The options of a command that take a value, in order. -/
def valued (c : Command) : List Arg := c.options.filter Arg.takesValue

/-- The options of a command that take no value, in order. -/
def switches (c : Command) : List Arg := c.options.filter fun a => !a.takesValue

/-- An option's value names a file or directory. -/
def takesPath (a : Arg) : Bool := a.kind = .path

/-- Texts in code point order. -/
def sortTexts (xs : List String) : List String := xs.mergeSort fun a b => decide (a ≤ b)

/-- A text with every occurrence of some characters replaced, each by its
own text. -/
def replaceChars (rules : List (Char × String)) (s : String) : String :=
  String.join (s.toList.map fun c => ((rules.find? (·.1 = c)).map (·.2)).getD (String.singleton c))

end RoomConsole.Completion
