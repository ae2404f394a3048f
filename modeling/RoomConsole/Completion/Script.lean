import RoomConsole.Completion.Bash
import RoomConsole.Completion.Zsh
import RoomConsole.Completion.Fish
import RoomConsole.Completion.PowerShell
import RoomConsole.Completion.Elvish
import RoomConsole.Cli.Options

/-!
# Completion scripts

The completion script `roomctl completions <shell>` prints, one per shell.
-/

namespace RoomConsole.Completion

open RoomConsole.Cli

/-- The completion script for a shell. -/
def script : Shell → String
  | .bash => Bash.script
  | .elvish => Elvish.script
  | .fish => Fish.script
  | .powershell => PowerShell.script
  | .zsh => Zsh.script

end RoomConsole.Completion
