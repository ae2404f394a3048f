import RoomConsole.Text.Width
import RoomConsole.Text.LineBreak

/-!
# Filling paragraphs

`fill` breaks a text into lines no wider than a given number of columns,
each line after an indent: one for the first line of the whole text, another
for all the others. Every line of the input is filled on its own.

A line is cut into words at its break opportunities (`breakOpportunities`),
except right after a hyphen; a hyphen between two letters or digits is then a
place to split a word. A word wider than a whole line is cut into pieces
that fit. Words are laid out first-fit: a word goes on the current line when
it fits, and starts a new one otherwise. The spaces after the last word of a
line are dropped.
-/

namespace RoomConsole.Text

/-- How to fill a text. -/
structure WrapOptions where
  /-- Columns of a line, indent included. -/
  width : Nat
  /-- Printed before the first line. -/
  initialIndent : String := ""
  /-- Printed before every other line. -/
  subsequentIndent : String := ""
  /-- Cut words wider than a line. -/
  breakWords : Bool := true

/-- A word of a line: its characters and the spaces that follow it. -/
structure Word where
  text : List Char
  space : List Char := []

/-- The columns of a word, its spaces not counted. -/
def Word.width (w : Word) : Nat := widthOf w.text

/-- A piece of a line, split off as a word. -/
def Word.ofPiece (piece : List Char) : Word :=
  let text := (piece.reverse.dropWhile (· = ' ')).reverse
  { text, space := piece.drop text.length }

/-- Cut a list at the given ascending positions. -/
def cutAt (cs : List Char) (offset : Nat) : List Nat → List (List Char)
  | [] => [cs]
  | p :: ps => cs.take (p - offset) :: cutAt (cs.drop (p - offset)) p ps

/-- The words of a line, cut at its break opportunities except after a
hyphen or a soft hyphen. -/
def lineWords (chars : List Char) : List Word :=
  if chars.isEmpty then []
  else
    let cuts := (breakOpportunities chars).filter fun p =>
      match chars[p - 1]? with
      | some '-' | some '\xad' => false
      | _ => true
    (cutAt chars 0 cuts).map Word.ofPiece

/-- A letter or a digit, of any script. -/
def isAlphanumeric (c : Char) : Bool :=
  c.isAlphanum || (c.toNat ≥ 0xAA &&
    (BreakClass.of c = .alphabetic || BreakClass.of c = .ideographic) && charWidth c > 0)

/-- The pieces of a word split after each hyphen that stands between two
letters or digits; the last piece keeps the word's spaces. -/
def splitHyphens (w : Word) : List Word :=
  let rec go (before : Option Char) (acc : List Char) : List Char → List Word
    | [] => [{ text := acc.reverse, space := w.space }]
    | '-' :: next :: rest =>
      if (before.map isAlphanumeric).getD false && isAlphanumeric next then
        { text := ('-' :: acc).reverse } :: go (some '-') [] (next :: rest)
      else go (some '-') ('-' :: acc) (next :: rest)
    | c :: rest => go (some c) (c :: acc) rest
  go none [] w.text

/-- A word cut into pieces no wider than `width` columns, each piece as wide
as fits; the last piece keeps the word's spaces. -/
def breakApart (width : Nat) (w : Word) : List Word :=
  let rec go (acc : List Char) (accWidth : Nat) : List Char → List Word
    | [] => [{ text := acc.reverse, space := w.space }]
    | c :: rest =>
      let cw := charWidth c
      if accWidth > 0 && accWidth + cw > width then
        { text := acc.reverse } :: go [c] cw rest
      else go (c :: acc) (accWidth + cw) rest
  go [] 0 w.text

/-- Lay words out first-fit: the first line is `first` columns wide, the
others `rest`. Each line is the list of its words, in order. -/
def firstFit (first rest : Nat) (words : List Word) : List (List Word) :=
  let rec go (lineNo : Nat) (current : List Word) (used : Nat) : List Word → List (List Word)
    | [] => [current.reverse]
    | w :: ws =>
      let avail := if lineNo = 0 then first else rest
      if used + w.width > avail && !current.isEmpty then
        current.reverse :: go (lineNo + 1) [w] (w.width + w.space.length) ws
      else go lineNo (w :: current) (used + w.width + w.space.length) ws
  go 0 [] 0 words

/-- The text of a laid-out line: its words with the spaces between them,
the spaces after the last one dropped. -/
def lineText : List Word → List Char
  | [] => []
  | [w] => w.text
  | w :: ws => w.text ++ w.space ++ lineText ws

/-- The filled lines of one input line, given how many lines were already
made. -/
def wrapLine (o : WrapOptions) (made : Nat) (line : List Char) : List String :=
  let indent := if made = 0 then o.initialIndent else o.subsequentIndent
  if indent.isEmpty && (String.ofList line).utf8ByteSize < o.width then
    [String.ofList (line.reverse.dropWhile (· = ' ')).reverse]
  else
    let firstWidth := o.width - displayWidth o.initialIndent
    let restWidth := o.width - displayWidth o.subsequentIndent
    let pieces := (lineWords line).flatMap splitHyphens
    let pieces := if o.breakWords then
        pieces.flatMap fun w => if w.width > restWidth then breakApart restWidth w else [w]
      else pieces
    let pieces := if o.breakWords && !o.initialIndent.isEmpty then { text := [] } :: pieces
      else pieces
    let laid := firstFit firstWidth restWidth pieces
    (List.range laid.length).zip laid |>.map fun (i, ws) =>
      if ws.isEmpty then ""
      else (if made + i = 0 then o.initialIndent else o.subsequentIndent) ++ String.ofList (lineText ws)

/-- The lines of a text filled to a width: each line of the input is filled
on its own, the first line of all after the first indent. -/
def wrapLines (o : WrapOptions) (text : String) : List String :=
  (text.splitOn "\n").foldl (fun acc line => acc ++ wrapLine o acc.length line.toList) []

/-- A text filled to a width, its lines joined by line feeds. -/
def fill (o : WrapOptions) (text : String) : String :=
  if text.utf8ByteSize < o.width && !text.contains '\n' && o.initialIndent.isEmpty then
    String.ofList (text.toList.reverse.dropWhile (· = ' ')).reverse
  else "\n".intercalate (wrapLines o text)

end RoomConsole.Text
