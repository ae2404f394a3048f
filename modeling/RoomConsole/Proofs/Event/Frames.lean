import RoomConsole.Event.Frame

/-!
# The frames of an event stream

What a body of `text/event-stream` says is read here without a reader
(`readFrames`): split the body at its line feeds and keep the complete
lines; read each as UTF-8 text without its trailing carriage returns; group
the lines into blocks, each ended by an empty line; and make each block
with a `data` line a frame. Its data are the values of its `data` lines
joined by line feeds, a value being the text after the line's first colon
less one leading space, and its name is the value of its last `event` line,
`message` when there is none or it is empty. Comments and other fields
count for nothing.

The reader takes the body in chunks and keeps the bytes of an unfinished
line. The proof follows its two levels. Between lines, the reader's state
is read off the lines of the unfinished block alone (`FrameReader.inBlock`):
a line other than an empty one takes the state of a block to the state of
the block with that line, and an empty line gives the block's frame
(`inBlock_line`, `inBlock_line_empty`), so taking lines gives the frames of
their blocks (`lines_inBlock`). Between chunks, a chunk is taken as the
complete lines of the pending bytes and the chunk, and the rest is kept
(`push_joinLines`), so taking two chunks is taking their concatenation
(`push_append`). The main statement is `frames_of_chunks`: however the body
is cut into chunks, the reader gives its frames.
-/

namespace RoomConsole.Event

/-! ## The declarative reading -/

/-- Lines each followed by a line feed, then bytes with none. -/
def joinLines (lines : List (List UInt8)) (rest : List UInt8) : List UInt8 :=
  (lines.map (· ++ [0x0A])).flatten ++ rest

/-- The complete lines of a body: its bytes split at line feeds, less the
bytes after the last one. -/
def completeLines (B : List UInt8) : List (List UInt8) := (B.splitOn 0x0A).dropLast

/-- A line read as a field: its name, the text before the first colon, and
its value, the text after it less one leading space. A line with no colon
is a name with an empty value; a comment, a line starting with a colon, is
no field. -/
def fieldOf (text : String) : Option (String × String) :=
  if text.startsWith ":" then none
  else
    let cs := text.toList
    let rest := (cs.dropWhile (· ≠ ':')).drop 1
    some (String.ofList (cs.takeWhile (· ≠ ':')),
      String.ofList (if rest.head? = some ' ' then rest.tail else rest))

/-- The values of the fields named `name` in a block of lines, in order. -/
def fieldValues (name : String) (blk : List String) : List String :=
  (blk.filterMap fieldOf).filterMap fun f => if f.1 = name then some f.2 else none

/-- The frame a block of lines makes: none without a `data` line; else the
data values joined by line feeds, named by the value of the last `event`
line, `message` when there is none or it is empty. -/
def blockFrame (blk : List String) : Option Frame :=
  let datas := fieldValues "data" blk
  if datas = [] then none
  else
    let name := (fieldValues "event" blk).getLastD ""
    some { event := if name = "" then "message" else name, data := "\n".intercalate datas }

/-- **The frames of a body**: its complete lines, read as text, grouped into
blocks each ended by an empty line; every block with a `data` line makes a
frame. -/
def readFrames (B : List UInt8) : List Frame :=
  (((completeLines B).map FrameReader.lineText).splitOn "").dropLast.filterMap blockFrame

namespace FrameReader

/-- Take lines one by one: the reader after them and the frames they end. -/
def lines (r : FrameReader) : List String → FrameReader × List Frame
  | [] => (r, [])
  | t :: ts =>
    let step := r.line t
    let rest := step.1.lines ts
    (rest.1, step.2.toList ++ rest.2)

/-- Take chunks one by one: the reader after them and the frames they
complete. -/
def pushAll (r : FrameReader) : List (List UInt8) → FrameReader × List Frame
  | [] => (r, [])
  | c :: cs =>
    let step := r.push c
    let rest := step.1.pushAll cs
    (rest.1, step.2 ++ rest.2)

/-- The reader inside a block after its lines `blk`: the value of the last
`event` line, the `data` values joined, and whether there was one. The
pending bytes are `r`'s. -/
def inBlock (r : FrameReader) (blk : List String) : FrameReader :=
  { r with
    event := (fieldValues "event" blk).getLastD ""
    data := "\n".intercalate (fieldValues "data" blk)
    hasData := !(fieldValues "data" blk).isEmpty }

/-- The reader with other pending bytes. -/
def withPending (r : FrameReader) (p : List UInt8) : FrameReader := { r with pending := p }

/-- A fresh reader is inside an empty block. -/
theorem inBlock_nil_default : ({} : FrameReader).inBlock [] = {} := rfl

@[simp] theorem withPending_pending (r : FrameReader) (p : List UInt8) :
    (r.withPending p).pending = p := rfl

@[simp] theorem withPending_withPending (r : FrameReader) (p q : List UInt8) :
    (r.withPending p).withPending q = r.withPending q := rfl

@[simp] theorem withPending_self (r : FrameReader) : r.withPending r.pending = r := rfl

end FrameReader

/-! ## Fields -/

/-- The bytes after the first colon, read the way the reader reads them. -/
theorem drop_takeWhile_length (cs : List Char) :
    cs.drop ((cs.takeWhile (· ≠ ':')).length + 1) = (cs.dropWhile (· ≠ ':')).drop 1 := by
  have hcs : cs.takeWhile (· ≠ ':') ++ cs.dropWhile (· ≠ ':') = cs := List.takeWhile_append_dropWhile
  calc cs.drop ((cs.takeWhile (· ≠ ':')).length + 1)
      = (cs.takeWhile (· ≠ ':') ++ cs.dropWhile (· ≠ ':')).drop
          ((cs.takeWhile (· ≠ ':')).length + 1) := by rw [hcs]
    _ = (cs.dropWhile (· ≠ ':')).drop 1 := by
      rw [List.drop_append, List.drop_eq_nil_of_le (by omega), Nat.add_sub_cancel_left,
        List.nil_append]

@[simp] theorem fieldValues_nil (name : String) : fieldValues name [] = [] := rfl

/-- The values of a block with more lines: the values of the first lines,
then those of the others. -/
theorem fieldValues_append (name : String) (blk blk' : List String) :
    fieldValues name (blk ++ blk') = fieldValues name blk ++ fieldValues name blk' := by
  simp only [fieldValues, List.filterMap_append]

theorem fieldValues_single_none {t : String} (h : fieldOf t = none) (name : String) :
    fieldValues name [t] = [] := by
  simp [fieldValues, h]

theorem fieldValues_single_some {t : String} {f : String × String} (h : fieldOf t = some f)
    (name : String) : fieldValues name [t] = if f.1 = name then [f.2] else [] := by
  by_cases hf : f.1 = name <;> simp [fieldValues, h, hf]

namespace FrameReader

variable (r : FrameReader)

/-- An empty line ends the frame. -/
theorem line_empty : r.line "" = r.dispatch := rfl

/-- A comment leaves the reader as it was. -/
theorem line_of_fieldOf_none {t : String} (ht : t ≠ "") (hf : fieldOf t = none) :
    r.line t = (r, none) := by
  have hc : t.startsWith ":" = true := by
    unfold fieldOf at hf
    split at hf
    · assumption
    · cases hf
  have he : t.isEmpty = false := by simpa [String.isEmpty_iff] using ht
  simp only [line, he, hc, if_true, Bool.false_eq_true, if_false]

/-- **A field line** names the frame or adds to its data by its value; any
other field leaves the reader as it was. -/
theorem line_of_fieldOf_some {t : String} (ht : t ≠ "") {f : String × String}
    (hf : fieldOf t = some f) :
    r.line t =
      if f.1 = "event" then ({ r with event := f.2 }, none)
      else if f.1 = "data" then
        ({ r with data := (if r.hasData then r.data ++ "\n" else r.data) ++ f.2, hasData := true },
          none)
      else (r, none) := by
  have he : t.isEmpty = false := by simpa [String.isEmpty_iff] using ht
  unfold fieldOf at hf
  split at hf
  · cases hf
  · rename_i hc
    cases hf
    simp only [line, he, hc, Bool.false_eq_true, if_false, String.length_ofList,
      drop_takeWhile_length]
    -- the reader drops one leading space by a match on the value, the reading by a test
    generalize List.drop 1 (List.dropWhile (fun x => decide (x ≠ ':')) t.toList) = A
    rcases A with _ | ⟨c, rest⟩
    · rfl
    · by_cases hsp : c = ' '
      · subst hsp
        rfl
      · simp [hsp]

/-- Ending a frame leaves the pending bytes alone. -/
theorem dispatch_withPending (p : List UInt8) :
    (r.withPending p).dispatch = (r.dispatch.1.withPending p, r.dispatch.2) := by
  unfold dispatch
  cases h : r.hasData <;> simp [withPending, h]

/-- Taking a line leaves the pending bytes alone. -/
theorem line_withPending (p : List UInt8) (t : String) :
    (r.withPending p).line t = ((r.line t).1.withPending p, (r.line t).2) := by
  by_cases ht : t = ""
  · subst ht
    rw [line_empty, line_empty, dispatch_withPending]
  · cases hf : fieldOf t with
    | none => rw [line_of_fieldOf_none _ ht hf, line_of_fieldOf_none _ ht hf]
    | some f =>
      rw [line_of_fieldOf_some _ ht hf, line_of_fieldOf_some _ ht hf]
      by_cases hev : f.1 = "event"
      · simp only [hev, if_true]
        rfl
      · by_cases hda : f.1 = "data"
        · simp only [hda, if_true]
          rfl
        · simp only [hev, hda, if_false]

/-- Joining one more value. -/
theorem intercalate_concat (sep : String) (ds : List String) (v : String) :
    sep.intercalate (ds ++ [v]) =
      (if (!ds.isEmpty) = true then sep.intercalate ds ++ sep else sep.intercalate ds) ++ v := by
  cases ds with
  | nil => simp
  | cons d ds =>
    rw [String.intercalate_append_of_ne_nil (List.cons_ne_nil d ds) (List.cons_ne_nil v []),
      String.intercalate_singleton]
    rfl

/-- **A line other than an empty one** takes the reader inside a block to
the reader inside the block with that line. -/
theorem inBlock_line (blk : List String) {t : String} (ht : t ≠ "") :
    (r.inBlock blk).line t = (r.inBlock (blk ++ [t]), none) := by
  cases hf : fieldOf t with
  | none =>
    rw [line_of_fieldOf_none _ ht hf]
    simp only [inBlock, fieldValues_append, fieldValues_single_none hf, List.append_nil]
  | some f =>
    rw [line_of_fieldOf_some _ ht hf]
    simp only [inBlock, fieldValues_append, fieldValues_single_some hf]
    by_cases hev : f.1 = "event"
    · -- the value names the block
      have hda : f.1 ≠ "data" := by rw [hev]; decide
      simp [hev, List.getLastD_eq_getLast?]
    · by_cases hda : f.1 = "data"
      · -- the value joins the data
        simp [hda, intercalate_concat]
      · simp [hev, hda]

/-- **An empty line** ends the block: the reader is inside a new, empty
block, and gives the block's frame. -/
theorem inBlock_line_empty (blk : List String) :
    (r.inBlock blk).line "" = (r.inBlock [], blockFrame blk) := by
  rw [line_empty]
  unfold dispatch blockFrame
  by_cases hd : fieldValues "data" blk = []
  · simp [inBlock, fieldValues_nil, hd]
  · simp [inBlock, fieldValues_nil, hd, String.isEmpty_iff]

@[simp] theorem lines_nil : r.lines [] = (r, []) := rfl

theorem lines_cons (t : String) (ts : List String) :
    r.lines (t :: ts) =
      (((r.line t).1.lines ts).1, (r.line t).2.toList ++ ((r.line t).1.lines ts).2) := rfl

/-- Taking lines leaves the pending bytes alone. -/
theorem lines_withPending (p : List UInt8) (ts : List String) :
    (r.withPending p).lines ts = ((r.lines ts).1.withPending p, (r.lines ts).2) := by
  induction ts generalizing r with
  | nil => rfl
  | cons t ts ih => rw [lines_cons, line_withPending, ih, lines_cons]

/-- Taking lines in two runs is taking them in one. -/
theorem lines_append (ts ts' : List String) :
    r.lines (ts ++ ts') =
      (((r.lines ts).1.lines ts').1, (r.lines ts).2 ++ ((r.lines ts).1.lines ts').2) := by
  induction ts generalizing r with
  | nil => rfl
  | cons t ts ih => simp only [List.cons_append, lines_cons, ih, List.append_assoc]

/-- **Taking lines gives the frames of their blocks.** Inside the unfinished
block `cur`, the lines `ts` end the blocks of `cur ++ ts` but the last,
giving their frames, and leave the reader inside the last. -/
theorem lines_inBlock {cur : List String} (hcur : "" ∉ cur) (ts : List String) :
    (r.inBlock cur).lines ts =
      (r.inBlock (((cur ++ ts).splitOn "").getLastD []),
        ((cur ++ ts).splitOn "").dropLast.filterMap blockFrame) := by
  induction ts generalizing cur with
  | nil =>
    have hone : (cur ++ []).splitOn "" = [cur] := by
      rw [List.append_nil]
      exact List.splitOnP_eq_singleton fun x hx => by
        simpa using fun h : x = "" => hcur (h ▸ hx)
    rw [hone]
    rfl
  | cons t ts ih =>
    by_cases ht : t = ""
    · -- the block `cur` ends here; the rest starts a new one
      subst ht
      have hsplit : (cur ++ "" :: ts).splitOn "" = cur :: ts.splitOn "" :=
        List.splitOnP_append_cons_of_forall_mem
          (fun x hx => by simpa using fun h : x = "" => hcur (h ▸ hx)) "" (by simp) ts
      have hne : ts.splitOn "" ≠ [] := List.splitOnP_ne_nil _ _
      rw [lines_cons, inBlock_line_empty, ih (List.not_mem_nil), hsplit, List.nil_append,
        List.dropLast_cons_of_ne_nil hne]
      obtain ⟨l, l', hl⟩ := List.exists_cons_of_ne_nil hne
      rw [hl]
      cases hb : blockFrame cur <;> simp [hb]
    · -- the block `cur` goes on with `t`
      have hcur' : "" ∉ cur ++ [t] := by
        simpa [List.mem_append] using ⟨hcur, ht⟩
      rw [lines_cons, inBlock_line _ _ ht, ih hcur', List.append_assoc, List.singleton_append]
      rfl

end FrameReader

/-! ## Lines of bytes -/

theorem joinLines_cons (l : List UInt8) (ls : List (List UInt8)) (rest : List UInt8) :
    joinLines (l :: ls) rest = l ++ 0x0A :: joinLines ls rest := by
  simp [joinLines]

theorem joinLines_append (ls ls' : List (List UInt8)) (rest : List UInt8) :
    joinLines (ls ++ ls') rest = joinLines ls (joinLines ls' rest) := by
  simp [joinLines]

/-- Every body is lines each followed by a line feed, then bytes with
none. -/
theorem exists_joinLines (B : List UInt8) :
    ∃ ls rest, (∀ l ∈ ls, (0x0A : UInt8) ∉ l) ∧ (0x0A : UInt8) ∉ rest ∧ B = joinLines ls rest := by
  induction B with
  | nil => exact ⟨[], [], by simp, by simp, rfl⟩
  | cons b B ih =>
    obtain ⟨ls, rest, hl, hr, rfl⟩ := ih
    by_cases hb : b = 0x0A
    · -- a line feed ends an empty first line
      subst hb
      exact ⟨[] :: ls, rest, by simpa using hl, hr, by rw [joinLines_cons]; rfl⟩
    · -- any other byte starts the first line, or the rest when there is no line
      cases ls with
      | nil => exact ⟨[], b :: rest, by simp, by simpa [Ne.symm hb] using hr, rfl⟩
      | cons l ls =>
        refine ⟨(b :: l) :: ls, rest, ?_, hr, by rw [joinLines_cons, joinLines_cons]; rfl⟩
        intro l' hl'
        rcases List.mem_cons.1 hl' with rfl | hl'
        · simpa [Ne.symm hb] using hl l (List.mem_cons_self ..)
        · exact hl l' (List.mem_cons_of_mem _ hl')

/-- **Splitting a body at its line feeds** gives its lines, then the bytes
after the last line feed. -/
theorem splitOn_joinLines {ls : List (List UInt8)} {rest : List UInt8}
    (hl : ∀ l ∈ ls, (0x0A : UInt8) ∉ l) (hr : (0x0A : UInt8) ∉ rest) :
    (joinLines ls rest).splitOn 0x0A = ls ++ [rest] := by
  induction ls with
  | nil =>
    exact List.splitOnP_eq_singleton fun x hx => by
      simpa using fun h : x = 0x0A => hr (h ▸ hx)
  | cons l ls ih =>
    have hl0 : (0x0A : UInt8) ∉ l := hl l (List.mem_cons_self ..)
    rw [joinLines_cons, List.cons_append, ← ih fun l' h' => hl l' (List.mem_cons_of_mem _ h')]
    exact List.splitOnP_append_cons_of_forall_mem
      (fun x hx => by simpa using fun h : x = 0x0A => hl0 (h ▸ hx)) 0x0A (by decide) _

/-- The reader finds a line's end at its line feed. -/
theorem takeWhile_joinLines {l : List UInt8} (hl : (0x0A : UInt8) ∉ l) (rest : List UInt8) :
    (l ++ 0x0A :: rest).takeWhile (· ≠ 0x0A) = l := by
  rw [List.takeWhile_append_of_pos fun x hx => by
    simpa using fun h : x = 0x0A => hl (h ▸ hx)]
  simp

theorem takeWhile_of_not_mem {rest : List UInt8} (hr : (0x0A : UInt8) ∉ rest) :
    rest.takeWhile (· ≠ 0x0A) = rest := by
  induction rest with
  | nil => rfl
  | cons x rest ih =>
    have hx : x ≠ 0x0A := fun h => hr (h ▸ List.mem_cons_self ..)
    rw [List.takeWhile_cons_of_pos (by simpa using hx), ih fun h => hr (List.mem_cons_of_mem _ h)]

namespace FrameReader

/-- **Draining takes the complete lines of the pending bytes**: with enough
fuel, the reader takes them one by one and keeps the bytes after the last
line feed. -/
theorem drain_joinLines {ls : List (List UInt8)} {rest : List UInt8}
    (hl : ∀ l ∈ ls, (0x0A : UInt8) ∉ l) (hr : (0x0A : UInt8) ∉ rest) :
    ∀ (fuel : Nat) (r : FrameReader) (acc : List Frame), r.pending = joinLines ls rest →
      r.pending.length < fuel →
      drain fuel r acc =
        ((r.lines (ls.map lineText)).1.withPending rest, acc.reverse ++ (r.lines (ls.map lineText)).2) := by
  induction ls with
  | nil =>
    intro fuel r acc hp hfuel
    obtain ⟨f, rfl⟩ : ∃ f, fuel = f + 1 := ⟨fuel - 1, by omega⟩
    -- no line feed is pending: nothing is taken
    have hhead : r.pending.takeWhile (· ≠ 0x0A) = r.pending := by
      rw [hp]
      exact takeWhile_of_not_mem hr
    have hkeep : r.withPending rest = r := by
      rw [← show r.pending = rest from hp, withPending_self]
    rw [drain, hhead, if_neg (Nat.lt_irrefl _), List.map_nil, lines_nil, hkeep, List.append_nil]
  | cons l ls ih =>
    intro fuel r acc hp hfuel
    obtain ⟨f, rfl⟩ : ∃ f, fuel = f + 1 := ⟨fuel - 1, by omega⟩
    have hl0 : (0x0A : UInt8) ∉ l := hl l (List.mem_cons_self ..)
    have hls : ∀ l' ∈ ls, (0x0A : UInt8) ∉ l' := fun l' h' => hl l' (List.mem_cons_of_mem _ h')
    -- the first line is taken, and the bytes after its line feed stay pending
    have hhead : r.pending.takeWhile (· ≠ 0x0A) = l := by
      rw [hp, joinLines_cons]
      exact takeWhile_joinLines hl0 _
    have hlen : r.pending.length = l.length + 1 + (joinLines ls rest).length := by
      rw [hp, joinLines_cons]
      simp
      omega
    have hdrop : r.pending.drop (l.length + 1) = joinLines ls rest := by
      rw [hp, joinLines_cons]
      simp [List.drop_append]
    rw [drain, hhead, if_pos (by omega), hdrop,
      show ({ r with pending := joinLines ls rest } : FrameReader) = r.withPending (joinLines ls rest)
        from rfl, line_withPending, List.map_cons, lines_cons]
    generalize r.line (lineText l) = step
    rcases step with ⟨r₁, fr⟩
    dsimp only
    rw [ih hls f (r₁.withPending (joinLines ls rest)) _ rfl (by simp; omega), lines_withPending,
      withPending_withPending]
    cases fr <;> simp

/-- **Taking a chunk** takes the complete lines of the pending bytes and the
chunk, and keeps the bytes after the last line feed. -/
theorem push_joinLines (r : FrameReader) (c : List UInt8) {ls : List (List UInt8)}
    {rest : List UInt8} (hl : ∀ l ∈ ls, (0x0A : UInt8) ∉ l) (hr : (0x0A : UInt8) ∉ rest)
    (hp : r.pending ++ c = joinLines ls rest) :
    r.push c = ((r.lines (ls.map lineText)).1.withPending rest, (r.lines (ls.map lineText)).2) := by
  rw [push, show ({ r with pending := r.pending ++ c } : FrameReader) = r.withPending (r.pending ++ c)
      from rfl, drain_joinLines hl hr _ _ _ hp (by simp), lines_withPending,
    withPending_withPending]
  rfl

/-- A chunk taken, no line feed is pending. -/
theorem push_pending (r : FrameReader) (c : List UInt8) : (0x0A : UInt8) ∉ (r.push c).1.pending := by
  obtain ⟨ls, rest, hl, hr, hp⟩ := exists_joinLines (r.pending ++ c)
  rw [push_joinLines r c hl hr hp]
  exact hr

/-- **Taking two chunks is taking their concatenation.** -/
theorem push_append (r : FrameReader) (X Y : List UInt8) :
    r.push (X ++ Y) = (((r.push X).1.push Y).1, (r.push X).2 ++ ((r.push X).1.push Y).2) := by
  obtain ⟨l₁, t₁, hl₁, ht₁, h₁⟩ := exists_joinLines (r.pending ++ X)
  obtain ⟨l₂, t₂, hl₂, ht₂, h₂⟩ := exists_joinLines (t₁ ++ Y)
  have hX := push_joinLines r X hl₁ ht₁ h₁
  have hXY : r.pending ++ (X ++ Y) = joinLines (l₁ ++ l₂) t₂ := by
    rw [← List.append_assoc, h₁, joinLines_append, ← h₂, joinLines, joinLines, List.append_assoc]
  have hl : ∀ l ∈ l₁ ++ l₂, (0x0A : UInt8) ∉ l := fun l h => by
    rcases List.mem_append.1 h with h | h
    · exact hl₁ l h
    · exact hl₂ l h
  have hY := push_joinLines (r.push X).1 Y hl₂ ht₂ (by rw [hX]; exact h₂)
  rw [push_joinLines r (X ++ Y) hl ht₂ hXY, hY, hX, lines_withPending, List.map_append,
    lines_append]
  rfl

/-- **Taking chunks one by one is taking their concatenation**, from a
reader with no line feed pending. -/
theorem pushAll_eq_push (cs : List (List UInt8)) :
    ∀ r : FrameReader, (0x0A : UInt8) ∉ r.pending → r.pushAll cs = r.push cs.flatten := by
  induction cs with
  | nil =>
    intro r hr
    rw [List.flatten_nil, @push_joinLines r [] [] r.pending (by simp) hr (by simp [joinLines])]
    rfl
  | cons c cs ih =>
    intro r _
    rw [pushAll, ih _ (push_pending r c), List.flatten_cons, push_append]

/-- **A fresh reader gives the frames of the chunks' concatenation**, and
keeps pending the bytes after its last line feed. -/
theorem pushAll_fresh (cs : List (List UInt8)) :
    (pushAll {} cs).2 = readFrames cs.flatten ∧
      (pushAll {} cs).1.pending = (cs.flatten.splitOn 0x0A).getLastD [] := by
  obtain ⟨ls, rest, hl, hr, hB⟩ := exists_joinLines cs.flatten
  rw [pushAll_eq_push cs {} List.not_mem_nil, push_joinLines {} cs.flatten hl hr hB, hB,
    splitOn_joinLines hl hr]
  refine ⟨?_, by simp⟩
  rw [← inBlock_nil_default, lines_inBlock _ List.not_mem_nil, readFrames, completeLines,
    splitOn_joinLines hl hr, List.dropLast_concat, List.nil_append]

end FrameReader

/-- A piece of a list split at `a`, other than the last, is followed by
`a` in the list. -/
theorem infix_of_mem_dropLast_splitOn {α : Type} [BEq α] [LawfulBEq α] {L x : List α} {a : α}
    (h : x ∈ (L.splitOn a).dropLast) : x ++ [a] <:+: L := by
  -- the list is its pieces joined by `a`, and a piece with one after it is followed by `a`
  have hjoin : ∀ (pre ys : List (List α)), ys ≠ [] →
      x ++ [a] <:+: [a].intercalate (pre ++ x :: ys) := by
    intro pre ys hys
    induction pre with
    | nil =>
      rw [List.nil_append, List.intercalate_cons_of_ne_nil hys]
      exact (List.prefix_append _ _).isInfix
    | cons p pre ih =>
      rw [List.cons_append, List.intercalate_cons_of_ne_nil (by simp)]
      exact ih.trans (List.suffix_append _ _).isInfix
  obtain ⟨pre, post, hsplit⟩ := List.append_of_mem h
  have hL : [a].intercalate (L.splitOn a) = L := List.intercalate_splitOn a
  rw [← List.dropLast_concat_getLast (List.splitOn_ne_nil a L), hsplit, List.append_assoc,
    List.cons_append] at hL
  rw [← hL]
  exact hjoin pre _ (by simp)

/-- **A frame is read only once a blank line ends its block**: it is the
frame of a block of complete lines that an empty line follows. -/
theorem mem_readFrames {B : List UInt8} {f : Frame} (h : f ∈ readFrames B) :
    ∃ blk, blockFrame blk = some f ∧
      blk ++ [""] <:+: (completeLines B).map FrameReader.lineText := by
  obtain ⟨blk, hmem, hf⟩ := List.mem_filterMap.1 h
  exact ⟨blk, hf, infix_of_mem_dropLast_splitOn hmem⟩

/-- **However a body is cut into chunks, the reader gives its frames.**
Taking the chunks in order, one reader gives, concatenated, the frames of
the body's declarative reading, and keeps pending the bytes after the last
line feed; so two cuts of one body give the same frames. -/
theorem frames_of_chunks (chunks : List (List UInt8)) :
    (FrameReader.pushAll {} chunks).2 = readFrames chunks.flatten ∧
      (FrameReader.pushAll {} chunks).1.pending = (chunks.flatten.splitOn 0x0A).getLastD [] ∧
      ∀ chunks' : List (List UInt8), chunks'.flatten = chunks.flatten →
        (FrameReader.pushAll {} chunks').2 = (FrameReader.pushAll {} chunks).2 := by
  have hread := FrameReader.pushAll_fresh chunks
  refine ⟨hread.1, hread.2, fun chunks' h => ?_⟩
  rw [(FrameReader.pushAll_fresh chunks').1, hread.1, h]

end RoomConsole.Event
