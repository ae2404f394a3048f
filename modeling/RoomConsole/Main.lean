import RoomConsole.Cli.Program

/-!
# The `roomctl` command

The outer layer of the program: it gathers the command line, the
environment, the configuration file and whether the streams are a
terminal into a `World`, runs the program on it, and carries out what the
run did: the text written to each stream, the directories made and files
written, and the exit code.

On a terminal the user types while the program runs. A run is a function
of what was typed, so when it stops waiting for a key, the layer reads the
next line the user typed and runs the program again with it; the output the
earlier run already showed is not shown again.
-/

namespace RoomConsole.Command

open RoomConsole.Host

/-- The environment, from the process's own record of it. -/
def environment : IO (List (String × String)) := do
  try
    let bytes ← IO.FS.readBinFile "/proc/self/environ"
    let text := (String.fromUTF8? bytes).getD ""
    pure ((text.splitOn "\x00").filterMap fun entry =>
      match entry.splitOn "=" with
      | k :: v :: rest => some (k, "=".intercalate (v :: rest))
      | _ => none)
  catch _ => pure []

/-- The files a run starts with: the configuration file, when it can be
read. -/
def startingFiles (env : List (String × String)) : IO Files := do
  let w : World := { env }
  let path := Cli.configPathIn w.var
  try
    let text ← IO.FS.readFile path
    pure { entries := [(path, .file text)] }
  catch _ => pure {}

/-- Make on disk the directories and files a run made or changed. -/
def persist (before after : Files) : IO Unit := do
  for (path, entry) in after.entries do
    if before.entries.contains (path, entry) then continue
    match entry with
    | .directory => try IO.FS.createDirAll path catch _ => pure ()
    | .file text =>
      match parentOf path with
      | some dir => try IO.FS.createDirAll dir catch _ => pure ()
      | none => pure ()
      IO.FS.writeFile path text

/-- Write the chunks of output after the first `shown` ones. -/
def showFrom (shown : Nat) (written : List (Channel × String)) : IO Unit := do
  let out ← IO.getStdout
  let err ← IO.getStderr
  for (ch, text) in written.drop shown do
    match ch with
    | .stdout => out.putStr text; out.flush
    | .stderr | .terminal => err.putStr text; err.flush

/-- Run the program until it ends, reading a line from the terminal each
time it waits for a key. -/
partial def runTyped (w : World) (shown : Nat) : IO (Ending × World) := do
  let (ending, after) := Cli.execute w
  showFrom shown after.written
  match ending with
  | .signaled s =>
    if s = sigkill && w.tty then
      let line ← (← IO.getStdin).getLine
      if line.isEmpty then pure (.exited 1, after)
      else runTyped { w with typed := w.typed ++ line.toUTF8.toList } after.written.length
    else pure (ending, after)
  | _ => pure (ending, after)

/-- The exit code of an ending: a signal's number above 128. -/
def exitCode : Ending → UInt32
  | .exited c => c.toUInt32
  | .signaled s => (128 + s).toUInt32

end RoomConsole.Command

/-- Run `roomctl` with the process's arguments and environment. -/
def main (args : List String) : IO UInt32 := do
  let env ← RoomConsole.Command.environment
  let files ← RoomConsole.Command.startingFiles env
  let tty ← (← IO.getStdout).isTty
  let (ending, after) ← RoomConsole.Command.runTyped { args, env, files, tty } 0
  RoomConsole.Command.persist files after.files
  pure (RoomConsole.Command.exitCode ending)
