import RoomConsole.Completion.Basic

/-!
# Elvish completion

The elvish script sets one argument completer. It joins the words typed so
far, up to the first option, with `;` into the path of a command, and
offers that command's candidates from a map: every spelling of its options
(those that take a value first) and its subcommands, each shown with its
help. The commands come each before its subcommands. Help texts stand
inside single quotes, where a quote is written twice and a line feed
becomes a space.
-/

namespace RoomConsole.Completion.Elvish

open RoomConsole.Cli

/-- A help text inside single quotes, else the text offered. -/
def describe (help : Option String) (fallback : String) : String :=
  match help with
  | some h => (h.replace "\n" " ").replace "'" "''"
  | none => fallback

/-- The candidates of one option. -/
def optionCandidates (a : Arg) : String :=
  (a.short.map fun s =>
    "\n            cand -" ++ String.singleton s ++ " '" ++ describe a.help (String.singleton s) ++ "'").getD ""
  ++ (a.long.map fun l => "\n            cand --" ++ l ++ " '" ++ describe a.help l ++ "'").getD ""

/-- The entry of a command in the map. -/
def commandEntry (s : Site) : String :=
  let c := s.command
  "\n        &'" ++ ";".intercalate s.path ++ "'= \x7b"
    ++ String.join ((valued c ++ switches c).map optionCandidates)
    ++ String.join (c.subcommands.map fun sub =>
      "\n            cand " ++ sub.name ++ " '" ++ describe sub.about sub.name ++ "'")
    ++ "\n        \x7d"

/-- The elvish completion script of a program. -/
def script : String :=
  let top := tree.name
  "\n" ++
  "use builtin;\n" ++
  "use str;\n" ++
  "\n" ++
  "set edit:completion:arg-completer[" ++ top ++ "] = \x7b|@words|\n" ++
  "    fn spaces \x7b|n|\n" ++
  "        builtin:repeat $n ' ' | str:join ''\n" ++
  "    \x7d\n" ++
  "    fn cand \x7b|text desc|\n" ++
  "        edit:complex-candidate $text &display=$text' '(spaces (- 14 (wcswidth $text)))$desc\n" ++
  "    \x7d\n" ++
  "    var command = '" ++ top ++ "'\n" ++
  "    for word $words[1..-1] \x7b\n" ++
  "        if (str:has-prefix $word '-') \x7b\n" ++
  "            break\n" ++
  "        \x7d\n" ++
  "        set command = $command';'$word\n" ++
  "    \x7d\n" ++
  "    var completions = [" ++ String.join (sites.map commandEntry) ++ "\n" ++
  "    ]\n" ++
  "    $completions[$command]\n" ++
  "\x7d\n"

end RoomConsole.Completion.Elvish
