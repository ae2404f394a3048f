import RoomConsole.Completion.Basic

/-!
# PowerShell completion

The PowerShell script registers one completer. It joins the words typed so
far, up to the first option, with `;` into the path of a command, and
offers that command's candidates: every spelling of its options (those
that take a value first) and its subcommands, each with its help as the
tooltip. The commands come each before its subcommands.

PowerShell does not tell `-s` from `-S`, so the completion text of an
upper-case short option carries a space after it. Tooltips stand inside
single quotes, where a quote is written twice.
-/

namespace RoomConsole.Completion.PowerShell

open RoomConsole.Cli

/-- A text inside single quotes. -/
def escapeText (s : String) : String := s.replace "'" "''"

/-- A tooltip: the help, else the text offered. -/
def tooltip (help : Option String) (fallback : String) : String :=
  match help with
  | some h => escapeText h
  | none => fallback

/-- The candidates of one option. -/
def optionCandidates (a : Arg) : String :=
  (a.short.map fun s =>
    let name := "-" ++ String.singleton s
    "\n            [CompletionResult]::new('" ++ name ++ "', '" ++ name ++ (if s.isUpper then " " else "")
      ++ "', [CompletionResultType]::ParameterName, '" ++ tooltip a.help (String.singleton s) ++ "')").getD ""
  ++ (a.long.map fun l =>
    "\n            [CompletionResult]::new('--" ++ l ++ "', '--" ++ l
      ++ "', [CompletionResultType]::ParameterName, '" ++ tooltip a.help l ++ "')").getD ""

/-- The case of a command. -/
def commandCase (s : Site) : String :=
  let c := s.command
  "\n        '" ++ ";".intercalate s.path ++ "' \x7b"
    ++ String.join ((valued c ++ switches c).map optionCandidates)
    ++ String.join (c.subcommands.map fun sub =>
      "\n            [CompletionResult]::new('" ++ sub.name ++ "', '" ++ sub.name
        ++ "', [CompletionResultType]::ParameterValue, '" ++ tooltip sub.about sub.name ++ "')")
    ++ "\n            break\n        \x7d"

/-- The PowerShell completion script of a program. -/
def script : String :=
  let top := tree.name
  "\n" ++
  "using namespace System.Management.Automation\n" ++
  "using namespace System.Management.Automation.Language\n" ++
  "\n" ++
  "Register-ArgumentCompleter -Native -CommandName '" ++ top ++ "' -ScriptBlock \x7b\n" ++
  "    param($wordToComplete, $commandAst, $cursorPosition)\n" ++
  "\n" ++
  "    $commandElements = $commandAst.CommandElements\n" ++
  "    $command = @(\n" ++
  "        '" ++ top ++ "'\n" ++
  "        for ($i = 1; $i -lt $commandElements.Count; $i++) \x7b\n" ++
  "            $element = $commandElements[$i]\n" ++
  "            if ($element -isnot [StringConstantExpressionAst] -or\n" ++
  "                $element.StringConstantType -ne [StringConstantType]::BareWord -or\n" ++
  "                $element.Value.StartsWith('-') -or\n" ++
  "                $element.Value -eq $wordToComplete) \x7b\n" ++
  "                break\n" ++
  "        \x7d\n" ++
  "        $element.Value\n" ++
  "    \x7d) -join ';'\n" ++
  "\n" ++
  "    $completions = @(switch ($command) \x7b" ++ String.join (sites.map commandCase) ++ "\n" ++
  "    \x7d)\n" ++
  "\n" ++
  "    $completions.Where\x7b $_.CompletionText -like \"$wordToComplete*\" \x7d |\n" ++
  "        Sort-Object -Property ListItemText\n" ++
  "\x7d\n"

end RoomConsole.Completion.PowerShell
