import RoomConsole.Cli.Usage
import RoomConsole.Text.Literal

/-!
# Command-line errors

What can be wrong with a command line, and the message that says so. A
message starts with `error:` and the problem, may give tips (a similar
name, how to pass a value that looks like an option), shows a usage line,
and ends by pointing to `--help`.
-/

namespace RoomConsole.Cli

/-- What is wrong with a command line. -/
inductive Problem where
  /-- An option or value nothing takes. -/
  | unknownArgument (arg : String)
  /-- A word where a subcommand must stand that names none. -/
  | unrecognizedSubcommand (name : String)
  /-- A value that is not one of an argument's names; an empty value means
  none was given. -/
  | invalidValue (arg value : String) (possible : List String)
  /-- A value that could not be read, and why. -/
  | valueValidation (arg value reason : String)
  /-- An argument used with one it excludes, or twice when it takes one
  value. -/
  | conflict (arg : String) (others : List String)
  | missingRequired (args : List String)
  | missingSubcommand (name : String) (names : List String)
  /-- A value attached to an option that takes none. -/
  | unexpectedValue (value arg : String)
  deriving Repr

/-- A command-line error with its tips, usage line and pointer to help. -/
structure Fault where
  problem : Problem
  /-- Similar names to suggest, with the kind of thing they name. -/
  similar : Option (String × List String) := none
  tips : List Styled := []
  usage : Option Styled := none
  /-- The flag or subcommand that shows help, if the command has one. -/
  tryHelp : Option String := some "--help"
  deriving Repr

/-- The flag or subcommand that shows a command's help. -/
def Command.helpPointer (c : Command) : Option String :=
  if c.helpFlag then some "--help"
  else if !c.subcommands.isEmpty then some "help"
  else none

/-- A value as a list of values shows it: quoted when it holds white space. -/
def listed (v : String) : String :=
  if v.any Char.isWhitespace then Text.literal v else v

/-- A bracketed list of values after the message. -/
def valuesList (title : String) (vs : List String) : Styled :=
  if vs.isEmpty then []
  else Styled.text ("\n  [" ++ title ++ ": ")
    ++ ((vs.map fun v => Styled.tone .valid (listed v)).intersperse (Styled.text ", ")).flatten
    ++ Styled.text "]"

/-- The sentence that states a problem. -/
def Problem.message : Problem → Styled
  | .unknownArgument arg =>
    Styled.text "unexpected argument '" ++ Styled.tone .invalid arg ++ Styled.text "' found"
  | .unrecognizedSubcommand name =>
    Styled.text "unrecognized subcommand '" ++ Styled.tone .invalid name ++ Styled.text "'"
  | .invalidValue arg value possible =>
    (if value.isEmpty then
      Styled.text "a value is required for '" ++ Styled.tone .invalid arg
        ++ Styled.text "' but none was supplied"
    else
      Styled.text "invalid value '" ++ Styled.tone .invalid value ++ Styled.text "' for '"
        ++ Styled.tone .literal arg ++ Styled.text "'")
    ++ valuesList "possible values" possible
  | .valueValidation arg value reason =>
    Styled.text "invalid value '" ++ Styled.tone .invalid value ++ Styled.text "' for '"
      ++ Styled.tone .literal arg ++ Styled.text ("': " ++ reason)
  | .conflict arg others =>
    if others = [arg] then
      Styled.text "the argument '" ++ Styled.tone .invalid arg ++ Styled.text "' cannot be used multiple times"
    else
      Styled.text "the argument '" ++ Styled.tone .invalid arg ++ Styled.text "' cannot be used with"
        ++ (match others with
          | [o] => Styled.text " '" ++ Styled.tone .invalid o ++ Styled.text "'"
          | os => Styled.text ":" ++ (os.flatMap fun o => Styled.text "\n  " ++ Styled.tone .invalid o))
  | .missingRequired args =>
    Styled.text "the following required arguments were not provided:"
      ++ (args.flatMap fun a => Styled.text "\n  " ++ Styled.tone .valid a)
  | .missingSubcommand name names =>
    Styled.text "'" ++ Styled.tone .invalid name
      ++ Styled.text "' requires a subcommand but one was not provided"
      ++ valuesList "subcommands" names
  | .unexpectedValue value arg =>
    Styled.text "unexpected value '" ++ Styled.tone .invalid value ++ Styled.text "' for '"
      ++ Styled.tone .literal arg ++ Styled.text "' found; no more were expected"

/-- The tip that names similar things. -/
def similarTip (kind : String) (names : List String) : Styled :=
  let quoted := ((names.map fun n => Styled.text "'" ++ Styled.tone .valid n ++ Styled.text "'").intersperse
    (Styled.text ", ")).flatten
  Styled.text "  " ++ Styled.tone .valid "tip:"
    ++ Styled.text (if names.length = 1 then " a similar " ++ kind ++ " exists: "
                    else " some similar " ++ kind ++ "s exist: ")
    ++ quoted

/-- The full text of an error. -/
def Fault.render (f : Fault) : Styled :=
  let head := Styled.tone .error "error:" ++ Styled.text " " ++ f.problem.message
  let similar := match f.similar with
    | some (kind, names) => if names.isEmpty then [] else Styled.text "\n\n" ++ similarTip kind names
    | none => []
  let suggested := match f.similar with
    | some (_, names) => !names.isEmpty
    | none => false
  let tips :=
    if f.tips.isEmpty then []
    else (if suggested then [] else Styled.text "\n")
      ++ f.tips.flatMap fun t => Styled.text "\n  " ++ Styled.tone .valid "tip:" ++ Styled.text " " ++ t
  let usage := match f.usage with
    | some u => Styled.text "\n\n" ++ u
    | none => []
  let tail := match f.tryHelp with
    | some h => Styled.text "\n\nFor more information, try '" ++ Styled.tone .literal h ++ Styled.text "'.\n"
    | none => Styled.text "\n"
  head ++ similar ++ tips ++ usage ++ tail

end RoomConsole.Cli
