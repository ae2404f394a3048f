import RoomConsole.Host.Run
import RoomConsole.Text.Width

/-!
# Prompts

Questions asked on the terminal, drawn on standard error with cursor
escapes:

* a **line of text**, edited in place (typing inserts at the cursor,
  Backspace deletes before it, the arrows move it), with a default taken on
  an empty Enter and a check that asks again with an `error:` line;
* a **yes/no question** that takes `y`, `n`, or Enter for the default and
  ignores every other key;
* a **choice** from a list, moved through with the arrows (wrapping at both
  ends) and taken with Enter;
* a **password**, read as a whole line with echo off, the terminal itself
  showing only the final line feed.

Keys are read one at a time with the terminal in raw mode; Ctrl-C
interrupts the program. When standard error is not a terminal, every
prompt fails before it asks.
-/

namespace RoomConsole.Host

/-- A key pressed at the terminal. -/
inductive Key where
  | enter
  | backspace
  | tab
  | home
  | endKey
  | escape
  | up
  | down
  | left
  | right
  | backTab
  | insert
  | delete
  | pageUp
  | pageDown
  /-- An escape sequence with no meaning here. -/
  | unknownEscape (seq : List Char)
  /-- Bytes that are not a character. -/
  | unknown
  | char (c : Char)
  deriving DecidableEq, Repr

/-- The byte Ctrl-C sends. -/
def interruptByte : UInt8 := 3

/-- Read a byte in raw mode; Ctrl-C interrupts the program. -/
def rawByte : Run UInt8 := do
  let b ← readByte
  if b = interruptByte then exitWith (.signaled sigint) else pure b

/-- A byte already typed, read in raw mode. -/
def rawPoll : Run (Option UInt8) := do
  match ← pollByte with
  | some b => if b = interruptByte then exitWith (.signaled sigint) else pure (some b)
  | none => pure none

/-- A byte as the character of the same number. -/
def byteChar (b : UInt8) : Char := Char.ofNat b.toNat

/-- The key of an escape sequence `ESC [ c2 …`. -/
def bracketKey (c2 : Char) : Option Key :=
  match c2 with
  | 'A' => some .up
  | 'B' => some .down
  | 'C' => some .right
  | 'D' => some .left
  | 'H' => some .home
  | 'F' => some .endKey
  | 'Z' => some .backTab
  | _ => none

/-- The key of an escape sequence `ESC [ c2 ~`. -/
def tildeKey (c2 : Char) : Option Key :=
  match c2 with
  | '1' | '7' => some .home
  | '2' => some .insert
  | '3' => some .delete
  | '4' | '8' => some .endKey
  | '5' => some .pageUp
  | '6' => some .pageDown
  | _ => none

/-- Read what follows an escape: only bytes already typed count, so a lone
escape is the Escape key. -/
def readEscape : Run Key := do
  match ← rawPoll with
  | none => pure .escape
  | some b1 =>
    let c1 := byteChar b1
    if c1 ≠ '[' then pure (.unknownEscape [c1])
    else match ← rawPoll with
      | none => pure (.unknownEscape [c1])
      | some b2 =>
        let c2 := byteChar b2
        match bracketKey c2 with
        | some k => pure k
        | none =>
          match ← rawPoll with
          | none => pure (.unknownEscape [c1, c2])
          | some b3 =>
            let c3 := byteChar b3
            if c3 = '~' then pure ((tildeKey c2).getD (.unknownEscape [c1, c2, c3]))
            else pure (.unknownEscape [c1, c2, c3])

/-- The number of bytes that follow a UTF-8 lead byte. -/
def followers (b : UInt8) : Nat :=
  if b &&& 0xE0 = 0xC0 then 1
  else if b &&& 0xF0 = 0xE0 then 2
  else if b &&& 0xF8 = 0xF0 then 3
  else 0

/-- Read `n` more bytes. -/
def rawBytes : Nat → Run (List UInt8)
  | 0 => pure []
  | n + 1 => do
    let b ← rawByte
    let rest ← rawBytes n
    pure (b :: rest)

/-- The character of a whole UTF-8 sequence, if it is one. -/
def utf8Char (bytes : List UInt8) : Option Char :=
  match String.fromUTF8? (ByteArray.mk bytes.toArray) with
  | some s => s.toList.head?
  | none => none

/-- The key of a single byte. -/
def byteKey (b : UInt8) : Key :=
  match byteChar b with
  | '\n' | '\r' => .enter
  | '\x7f' | '\x08' => .backspace
  | '\t' => .tab
  | '\x01' => .home
  | '\x05' => .endKey
  | c => .char c

/-- Read one key in raw mode. -/
def readKey : Run Key := do
  let b ← rawByte
  if b = 0x1b then readEscape
  else
    let n := followers b
    if n = 0 then pure (byteKey b)
    else do
      let rest ← rawBytes n
      pure ((utf8Char (b :: rest)).map Key.char |>.getD .unknown)

/-! ## Drawing -/

/-- A cursor movement: `n` steps with the given final letter, nothing for
none. -/
def cursorMove (letter : String) (n : Nat) : String :=
  if n = 0 then "" else "\x1b[" ++ toString n ++ letter

/-- Write on the prompt's stream, standard error. -/
def draw (text : String) : Run Unit := emit .stderr text

/-- Clear the line the cursor is on. -/
def clearLine : Run Unit := draw "\r\x1b[2K"

/-- Clear the last `n` lines, leaving the cursor at the first of them. -/
def clearLastLines (n : Nat) : Run Unit := do
  draw (cursorMove "A" n)
  (List.range n).forM fun _ => do clearLine; draw (cursorMove "B" 1)
  draw (cursorMove "A" n)

/-- The lines a prompt has drawn: its question, and what came after. -/
structure Drawn where
  height : Nat := 0
  promptHeight : Nat := 0

/-- Draw a whole line. -/
def Drawn.line (d : Drawn) (text : String) : Run Drawn := do
  draw (text ++ "\n")
  pure { d with height := d.height + (text.toList.filter (· = '\n')).length + 1 }

/-- Draw the question's line: what follows is counted apart. -/
def Drawn.question (d : Drawn) (text : String) : Run Drawn := do
  let d ← d.line text
  pure { height := 0, promptHeight := d.height }

/-- Clear everything drawn. -/
def Drawn.clear (d : Drawn) : Run Drawn := do
  clearLastLines (d.height + d.promptHeight)
  pure {}

/-- Clear what was drawn after the question. -/
def Drawn.clearBelow (d : Drawn) : Run Drawn := do
  clearLastLines d.height
  pure { d with height := 0 }

/-- The columns of the terminal. -/
def terminalColumns : Nat := 80

/-! ## A line of text -/

/-- Insert a character at a position. -/
def insertAt (cs : List Char) (i : Nat) (c : Char) : List Char := cs.take i ++ c :: cs.drop i

/-- Remove the character at a position. -/
def removeAt (cs : List Char) (i : Nat) : List Char := cs.take i ++ cs.drop (i + 1)

/-- What one key does to a line being edited after a prompt `promptLen`
columns wide: redraw what changed, then go on with the new line and cursor,
or stop at Enter. -/
def editKey (promptLen : Nat) (chars : List Char) (pos : Nat) : Key → Run (Option (List Char × Nat))
  | .enter => pure none
  | .backspace =>
    if pos = 0 then pure (some (chars, pos))
    else do
      let cols := terminalColumns
      let pos := pos - 1
      let chars := removeAt chars pos
      if (pos + promptLen) % (cols - 1) = 0 then do
        clearLine; draw (cursorMove "A" 1); draw (cursorMove "C" (cols + 1))
      else draw (cursorMove "D" 1 ++ "\x1b[0K")
      let tail := chars.drop pos
      if !tail.isEmpty then
        draw (String.ofList tail)
        let total := pos + promptLen + tail.length
        draw (cursorMove "A" (total / cols - (pos + promptLen) / cols))
        draw (cursorMove "D" cols)
        draw (cursorMove "C" ((pos + promptLen) % cols))
      pure (some (chars, pos))
  | .char c =>
    if c.toNat < 32 || c.toNat = 127 then pure (some (chars, pos))
    else do
      let chars := insertAt chars pos c
      let tail := chars.drop (pos + 1)
      draw (String.ofList (c :: tail) ++ cursorMove "D" tail.length)
      pure (some (chars, pos + 1))
  | .left =>
    if pos = 0 then pure (some (chars, pos))
    else do
      let cols := terminalColumns
      if (pos + promptLen) % cols = 0 then draw (cursorMove "A" 1 ++ cursorMove "C" cols)
      else draw (cursorMove "D" 1)
      pure (some (chars, pos - 1))
  | .right =>
    if pos ≥ chars.length then pure (some (chars, pos))
    else do
      let cols := terminalColumns
      if (pos + promptLen) % (cols - 1) = 0 then draw (cursorMove "B" 1 ++ cursorMove "D" cols)
      else draw (cursorMove "C" 1)
      pure (some (chars, pos + 1))
  | _ => pure (some (chars, pos))

/-- Edit a line after a prompt `promptLen` columns wide, key by key, until
Enter. -/
def editLine (promptLen : Nat) : Nat → List Char → Nat → Run (List Char)
  | 0, _, _ => exitWith (.signaled sigkill)
  | fuel + 1, chars, pos => do
    match ← editKey promptLen chars pos (← readKey) with
    | none => pure chars
    | some (chars, pos) => editLine promptLen fuel chars pos

/-- The text after which a line is typed: the default in brackets. -/
def inputPrompt (prompt : String) (default : Option String) : String :=
  match default with
  | some d => prompt ++ " [" ++ d ++ "]: "
  | none => prompt ++ ": "

/-- Ask for a line until one is given (or the default is taken) that passes
the check. -/
def askLine (prompt : String) (default : Option String) (check : String → Option String) :
    Nat → Drawn → Run String
  | 0, _ => exitWith (.signaled sigkill)
  | fuel + 1, d => do
    let text := inputPrompt prompt default
    draw text
    let chars ← editLine (Text.displayWidth text) fuel [] 0
    clearLine
    let d ← d.clear
    let answer := if chars.isEmpty then default else some (String.ofList chars)
    match answer with
    | none => askLine prompt default check fuel d
    | some v =>
      match check v with
      | some err =>
        let d ← d.line ("error: " ++ err)
        askLine prompt default check fuel d
      | none =>
        let _ ← d.line (prompt ++ ": " ++ v)
        pure v

/-- The failure of a prompt when standard error is not a terminal. -/
def notATerminal : String := "IO error: not a terminal"

/-- Ask for a line of text. -/
def input (prompt : String) (default : Option String) (check : String → Option String) :
    Run (Except String String) := do
  if !(← get).tty then return .error notATerminal
  let fuel ← keysLeft
  return .ok (← askLine prompt default check fuel {})

/-! ## Yes or no -/

/-- Read keys until one answers the question. -/
def yesNoKeys (default : Bool) : Nat → Run Bool
  | 0 => exitWith (.signaled sigkill)
  | fuel + 1 => do
    match ← readKey with
    | .char 'y' | .char 'Y' => pure true
    | .char 'n' | .char 'N' => pure false
    | .enter => pure default
    | _ => yesNoKeys default fuel

/-- Ask a yes/no question. -/
def confirm (prompt : String) (default : Bool) : Run (Except String Bool) := do
  if !(← get).tty then return .error notATerminal
  draw (prompt ++ " " ++ (if default then "[Y/n] " else "[y/N] "))
  draw "\x1b[?25l"
  let v ← yesNoKeys default (← keysLeft)
  clearLine
  draw (prompt ++ " " ++ (if v then "yes" else "no") ++ "\n")
  draw "\x1b[?25h"
  return .ok v

/-! ## A choice -/

/-- Draw the items, the selected one marked. -/
def drawItems (d : Drawn) (items : List String) (sel : Nat) : Run Drawn :=
  ((List.range items.length).zip items).foldlM (fun d (i, item) =>
    d.line ((if i = sel then "> " else "  ") ++ item)) d

/-- Move through the items until one is taken. -/
def chooseLoop (prompt : String) (items : List String) : Nat → Nat → Drawn → Run Nat
  | 0, _, _ => exitWith (.signaled sigkill)
  | fuel + 1, sel, d => do
    let d ← drawItems d items sel
    let n := items.length
    match ← readKey with
    | .enter | .char ' ' =>
      let d ← d.clear
      let _ ← d.line (prompt ++ ": " ++ items.getD sel "")
      draw "\x1b[?25h"
      pure sel
    | k =>
      let sel := match k with
        | .down | .tab | .char 'j' => (sel + 1) % n
        | .up | .backTab | .char 'k' => (sel + n - 1) % n
        | _ => sel
      let d ← d.clearBelow
      chooseLoop prompt items fuel sel d

/-- Ask for a choice among items, starting at `default`. -/
def select (prompt : String) (items : List String) (default : Nat) : Run (Except String Nat) := do
  if !(← get).tty then return .error notATerminal
  draw "\x1b[?25l"
  let d ← ({} : Drawn).question (prompt ++ ":")
  return .ok (← chooseLoop prompt items (← keysLeft) default d)

/-! ## A password -/

/-- The failure of opening the terminal when there is no controlling
terminal. -/
def noTerminal : String := "No such device or address (os error 6)"

/-- Drop the last character of typed bytes. -/
def dropLastChar (bytes : List UInt8) : List UInt8 :=
  let rev := bytes.reverse.dropWhile fun b => b &&& 0xC0 = 0x80
  (rev.drop 1).reverse

/-- Read a line with the terminal's own editing: Enter ends it (the
terminal shows the line feed), Backspace and Ctrl-U erase, Ctrl-D at the
start is the end of input, Ctrl-C interrupts. -/
def readHidden : Nat → List UInt8 → Run (Except String String)
  | 0, _ => exitWith (.signaled sigkill)
  | fuel + 1, acc => do
    let b ← readByte
    if b = interruptByte then
      emit .terminal "\n"
      exitWith (.signaled sigint)
    else if b = 4 then
      if acc.isEmpty then pure (.error "unexpected end of file") else readHidden fuel acc
    else if b = 13 || b = 10 then
      emit .terminal "\n"
      match String.fromUTF8? (ByteArray.mk acc.toArray) with
      | some s => pure (.ok s)
      | none => pure (.error "stream did not contain valid UTF-8")
    else if b = 0x7f then readHidden fuel (dropLastChar acc)
    else if b = 0x15 then readHidden fuel []
    else readHidden fuel (acc ++ [b])

/-- Ask for a password on the terminal. -/
def password (prompt : String) : Run (Except String String) := do
  if !(← get).tty then return .error noTerminal
  emit .terminal prompt
  readHidden (← keysLeft) []

end RoomConsole.Host
