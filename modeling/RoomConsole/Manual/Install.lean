import RoomConsole.Manual.Page
import RoomConsole.Cli.Tree
import RoomConsole.Host.Run

/-!
# Installing the manual

The manual has a page for `roomctl` and one for each of its subcommands,
at every depth: `roomctl-rooms.1`, `roomctl-rooms-list.1`. A subcommand's
page is made from the subcommand as declared, under the joined name, and
completed on its own: it shows its own arguments and a help flag, not the
options of the commands above it, and no version.

The installer writes the pages into `man/` under the directory `OUT_DIR`
names, depth first from `roomctl.1`, after telling the build which file the
pages are made from. It stops at the first thing it cannot do: with
`OUT_DIR` unset, when `man/` cannot be made, or when a page cannot be
written, it reports where it stopped and why, and exits with code 101. The
pages written before then stay.
-/

namespace RoomConsole.Manual

open RoomConsole.Cli
open RoomConsole.Host

/-- The pages of a declared command and of its subcommands, depth first:
the command under its name, then each subcommand's pages under the name
joined to the subcommand's by a hyphen. -/
def pagesOf (name : String) (c : Command) : List (String × Command) :=
  (name, c) :: c.subcommands.attach.flatMap fun ⟨s, _⟩ => pagesOf (name ++ "-" ++ s.name) s
termination_by sizeOf c
decreasing_by
  rename_i hmem
  have := List.sizeOf_lt_of_mem hmem
  cases c
  simp only [Command.mk.sizeOf_spec] at this ⊢
  omega

/-- Every page of the manual: its file name and its text. -/
def manual : List (String × String) :=
  (pagesOf declared.name declared).map fun (name, c) =>
    (name ++ ".1", pageText (Command.build false [] none name name { c with name }))

/-- Stop with a report of where and why, and exit code 101. -/
def stopAt {α : Type} (line column : Nat) (message : String) : Run α := do
  emit .stderr ("\nthread 'main' panicked at crates/roomctl/build.rs:" ++ toString line ++ ":"
    ++ toString column ++ ":\n" ++ message
    ++ "\nnote: run with `RUST_BACKTRACE=1` environment variable to display a backtrace\n")
  exitWith (.exited 101)

/-- Write the pages into a directory, one after another, stopping at the
first that cannot be written. -/
def writePages (dir : String) : List (String × String) → Run Unit
  | [] => pure ()
  | (name, text) :: rest => do
    let path := joinPath dir name
    match (← get).files.write path text with
    | .ok fs =>
      modify fun w => { w with files := fs }
      writePages dir rest
    | .error e => stopAt 32 47 ("failed to write " ++ path ++ ": " ++ e.message)

/-- Install the manual under `OUT_DIR`. -/
def install : Run Unit := do
  emit .stdout "cargo::rerun-if-changed=src/cli.rs\n"
  let some out ← getVar "OUT_DIR" | stopAt 14 10 "OUT_DIR not set by Cargo"
  let dir := joinPath out "man"
  match (← get).files.createDirAll dir with
  | .ok fs => modify fun w => { w with files := fs }
  | .error e => stopAt 17 34 ("failed to create man output directory: " ++ e.record)
  writePages dir manual

/-- Run the installer to its end: how it ended and the world after it. -/
def runInstall (w : World) : Ending × World :=
  match (install.run).run w with
  | (.ok (), w') => (.exited 0, w')
  | (.error e, w') => (e, w')

end RoomConsole.Manual
