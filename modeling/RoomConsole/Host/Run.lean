import RoomConsole.Host.Files
import RoomConsole.Text.Utf8

/-!
# A run of the program

A run sees its environment variables, its files and the system keyring,
and writes to standard output and standard error. It may run on a terminal, where a user answers
its prompts: each answer waits until a text appears on the screen after the
previous answer's, then types its keys. An answer whose text never appears
is where the user gave up; a program that then waits for a key waits until
it is killed.

The screen of a terminal shows standard output and standard error as they
were written, with every line feed turned into a carriage return and a line
feed.

A run ends by exiting with a code or by a signal; `Run` carries the world
through the run and stops at the ending.
-/

namespace RoomConsole.Host

/-- Where the program writes. -/
inductive Channel where
  | stdout
  | stderr
  /-- The terminal itself, opened by name. -/
  | terminal
  deriving DecidableEq, Repr

/-- How a run ended. -/
inductive Ending where
  | exited (code : Nat)
  | signaled (signal : Nat)
  deriving DecidableEq, Repr

/-- The signal of an interrupt, Ctrl-C. -/
def sigint : Nat := 2

/-- The signal that kills a run that waited too long. -/
def sigkill : Nat := 9

/-- One answer of the user at the terminal: wait until the text appears,
then type the keys. -/
structure Answer where
  expect : String
  send : String
  deriving Repr

/-- The system keyring: the passwords it holds, by account, or why the
host's secret service refuses every request. -/
structure Keyring where
  entries : List (String × String) := []
  refusal : Option String := none

namespace Keyring

/-- The password held for an account; none when the service refuses. -/
def lookup (k : Keyring) (account : String) : Option String :=
  if k.refusal.isSome then none else (k.entries.find? (·.1 = account)).map (·.2)

/-- Hold a password for an account, in place of the one held before; or
the service's refusal. -/
def store (k : Keyring) (account password : String) : Except String Keyring :=
  match k.refusal with
  | some why => .error why
  | none => .ok { k with entries := (account, password) :: k.entries.filter (·.1 ≠ account) }

end Keyring

/-- Everything a run sees and has done so far. -/
structure World where
  args : List String := []
  env : List (String × String) := []
  files : Files := {}
  /-- Standard input, output and error are a terminal. -/
  tty : Bool := false
  /-- Everything written, in order. -/
  written : List (Channel × String) := []
  /-- Keys typed and not yet read. -/
  typed : List UInt8 := []
  /-- The answers still to come. -/
  answers : List Answer := []
  /-- How many answers were given. -/
  answered : Nat := 0
  /-- Where on the screen the next answer's text is looked for. -/
  lookFrom : Nat := 0
  /-- The answer whose text never appeared. -/
  stalledAt : Option Nat := none
  keyring : Keyring := {}

/-- A run: a step that changes the world and may end the program. -/
abbrev Run := ExceptT Ending (StateM World)

/-- The first position at or after `start` where `needle` begins in
`hay`. -/
def findFrom (hay needle : List Char) (start : Nat) : Option Nat :=
  ((List.range (hay.length + 1 - start)).find? fun i =>
    (hay.drop (start + i)).take needle.length == needle).map (· + start)

namespace World

/-- The value of an environment variable; the last setting wins. -/
def var (w : World) (k : String) : Option String :=
  (w.env.reverse.find? (·.1 = k)).map (·.2)

/-- What the terminal shows: everything written, line feeds turned into
carriage return and line feed. -/
def screen (w : World) : List Char :=
  (w.written.flatMap fun (_, t) => t.toList).flatMap fun c =>
    if c = '\n' then ['\r', '\n'] else [c]

/-- Everything written to one channel. -/
def output (w : World) (ch : Channel) : String :=
  String.join ((w.written.filter (·.1 = ch)).map (·.2))

/-- Let the user answer while there is nothing typed: an answer whose text
is on the screen types its keys; one whose text is not gives up, and no
answer after it comes. -/
def feed : Nat → World → World
  | 0, w => w
  | n + 1, w =>
    if !w.typed.isEmpty then w
    else match w.answers with
      | [] => w
      | a :: rest =>
        let screen := w.screen
        match findFrom screen a.expect.toList w.lookFrom with
        | some pos =>
          feed n { w with typed := Text.Utf8.encode a.send, answers := rest,
                          answered := w.answered + 1, lookFrom := pos + a.expect.length }
        | none => { w with answers := [], stalledAt := some w.answered }

/-- Let every answer whose text is on the screen be given, after the
program ended. -/
def settle (w : World) : World :=
  (List.range (w.answers.length + 1)).foldl (fun w _ => feed 1 { w with typed := [] }) w

end World

/-- Write to a channel. -/
def emit (ch : Channel) (text : String) : Run Unit :=
  modify fun w => { w with written := w.written ++ [(ch, text)] }

/-- End the run. -/
def exitWith {α : Type} (e : Ending) : Run α := throw e

/-- The next typed byte, when one is there or an answer gives one. -/
def pollByte : Run (Option UInt8) := do
  let w ← get
  let w := World.feed (w.answers.length + 1) w
  match w.typed with
  | b :: rest => set { w with typed := rest }; pure (some b)
  | [] => set w; pure none

/-- Wait for the next typed byte; with none to come, the run waits until
it is killed. -/
def readByte : Run UInt8 := do
  match ← pollByte with
  | some b => pure b
  | none => exitWith (.signaled sigkill)

/-- The number of keys the user can still type: every loop that reads keys
ends within it. -/
def keysLeft : Run Nat := do
  let w ← get
  pure (w.typed.length + w.answers.foldl (fun n a => n + a.send.utf8ByteSize) 0 + 1)

/-- The value of an environment variable. -/
def getVar (k : String) : Run (Option String) := do pure ((← get).var k)

/-- Store a password in the system keyring under an account; the refusal
when the service refuses. -/
def storeSecret (account password : String) : Run (Except String Unit) := do
  let w ← get
  match w.keyring.store account password with
  | .error why => pure (.error why)
  | .ok k =>
    set { w with keyring := k }
    pure (.ok ())

end RoomConsole.Host
