import RoomConsole.Cli.Spec
import RoomConsole.Cli.Styled

/-!
# Usage lines

A usage line shows how to call a command: the command line that reaches it,
`[OPTIONS]` when it has options one may leave out, the required options with
their values, every positional value (`<ROOM>` when required, `[ROOM]` when
not), and `<COMMAND>` or `[COMMAND]` when it has subcommands.

An error names the arguments that were used, so its usage line shows those
instead of `[OPTIONS]`: every argument used, and every required one.
-/

namespace RoomConsole.Cli

namespace Command

/-- An argument as a usage line shows it: the name literal, the value a
placeholder. -/
def usageOf (a : Arg) (required : Bool) : Styled :=
  let full := a.shown required
  match a.long, a.short with
  | some l, _ => Styled.tone .literal ("--" ++ l) ++ Styled.tone .placeholder (String.ofList (full.toList.drop (l.length + 2)))
  | none, some s => Styled.tone .literal ("-" ++ String.singleton s)
      ++ Styled.tone .placeholder (String.ofList (full.toList.drop 2))
  | none, none => Styled.tone .placeholder full

/-- The command has options that a usage line sums up as `[OPTIONS]`: one
that is neither help nor version nor required. -/
def needsOptionsTag (c : Command) : Bool :=
  c.options.any fun a => a.action ≠ .help && a.action ≠ .version && !a.required

/-- The arguments a usage line lists: the required ones and those in `used`,
options first, then every positional value in index order. With
`forceOptional`, options are left out and positional values shown as
optional. -/
def usageArgs (c : Command) (used : List String) (forceOptional : Bool) : Styled :=
  let wanted := (c.args.filter (·.required)).map (·.id) ++ used
  let step (acc : List String × List Styled × List (Nat × Styled)) (id : String) :=
    let (seen, opts, pos) := acc
    match c.findArg id with
    | none => acc
    | some a =>
      let s := usageOf a (!forceOptional)
      match a.index with
      | some i => if pos.any (·.1 = i) then acc else (seen, opts, pos ++ [(i, s)])
      | none =>
        let key := Styled.plain s
        if seen.contains key then acc else (seen ++ [key], opts ++ [s], pos)
  let (_, opts, pos) := wanted.foldl step ([], [], [])
  let pos := c.positionals.filterMap fun p =>
    match p.index with
    | some i => match pos.find? (·.1 = i) with
      | some (_, s) => some s
      | none => some (usageOf p false)
    | none => none
  let optsPart := if forceOptional then [] else opts
  (optsPart ++ pos).flatMap fun s => s ++ Styled.text " "

/-- The subcommands a usage line names: `<COMMAND>` when one is required,
`[COMMAND]` otherwise, nothing when only `help` is there. -/
def subcommandUsage (c : Command) : Styled :=
  if c.subcommands.any (fun s => s.name ≠ "help") then
    Styled.tone .placeholder (if c.subcommandRequired then "<COMMAND>" else "[COMMAND]")
  else []

/-- The usage line of a command's help screen. -/
def helpUsage (c : Command) : Styled :=
  Styled.trimEnd (Styled.tone .literal c.path ++ Styled.text " "
    ++ (if c.needsOptionsTag then Styled.tone .placeholder "[OPTIONS]" ++ Styled.text " " else [])
    ++ c.usageArgs [] false ++ c.subcommandUsage)

/-- The usage line of an error that names the arguments in `used`. -/
def usageWith (c : Command) (used : List String) : Styled :=
  if used.isEmpty then c.helpUsage
  else Styled.trimEnd (Styled.tone .literal c.path ++ Styled.text " " ++ c.usageArgs used false
    ++ (if c.subcommandRequired then Styled.tone .placeholder "<COMMAND>" else []))

/-- A usage line with its title. -/
def usageLine (c : Command) (used : List String) : Styled :=
  Styled.tone .usage "Usage:" ++ Styled.text " " ++ c.usageWith used

end Command

end RoomConsole.Cli
