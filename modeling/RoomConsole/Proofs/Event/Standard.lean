import RoomConsole.Proofs.Event.Frames
import RoomConsole.Proofs.Text.Utf8

/-!
# The reader and the standard's reading of an event stream

The HTML standard reads a `text/event-stream` body thus (`standardFrames`,
kept here to its `event` and `data` fields): decode the bytes as UTF-8 with
replacement and drop one leading U+FEFF; cut the text into lines, each
ended by a CR LF pair, a lone LF or a lone CR, the text after the last line
end being no line (`standardLines`); and interpret each line against two
buffers (`StandardBuffers.line`). A field line sets the event type or adds
its value and a line feed to the data; a blank line dispatches the data,
less its final line feed, when there is any, named by the event type or
`message`, and empties both buffers.

The reader cuts its bytes at line feeds only and drops the carriage
returns that end a line; it does not drop a byte order mark. The two
readings part exactly there:

* the buffers follow the reader line for line (`Mirrors`, `line_mirror`,
  `lines_mirror`), whatever the lines;
* when every carriage return of the body is followed by a line feed, the
  standard's lines are the reader's (`standardLines_joinLines`), a line's
  bytes read as text one by one or all together alike
  (`Text.Utf8.decode_append_ascii`, `Text.Utf8.mem_decode_ascii`).

So `push_eq_standardFrames`: on such a body, not starting with U+FEFF, one
push of the whole body gives the standard's frames. A lone carriage return
and a leading byte order mark make them differ
(`reader_misses_lone_cr_and_bom`).
-/

namespace RoomConsole.Event

open RoomConsole.Text

/-- The byte order mark, U+FEFF. -/
def byteOrderMark : Char := Char.ofNat 0xFEFF

/-- The lines of a text as the standard cuts them: each ends at a CR LF
pair, a lone LF or a lone CR, and the text after the last line end is no
line. `cur` holds the line read so far, last character first. -/
def standardLines : List Char → List Char → List String
  | [], _ => []
  | '\r' :: '\n' :: rest, cur => String.ofList cur.reverse :: standardLines rest []
  | '\r' :: rest, cur => String.ofList cur.reverse :: standardLines rest []
  | '\n' :: rest, cur => String.ofList cur.reverse :: standardLines rest []
  | c :: rest, cur => standardLines rest (c :: cur)

/-- The two buffers of the standard's reading that `event` and `data`
lines write. -/
structure StandardBuffers where
  eventType : String := ""
  data : String := ""

namespace StandardBuffers

/-- A blank line: the data, less its final line feed, is dispatched when
there is any, named by the event type or else `message`; both buffers are
emptied either way. -/
def dispatch (st : StandardBuffers) : StandardBuffers × Option Frame :=
  if st.data.isEmpty then ({}, none)
  else
    let d := st.data.toList
    ({}, some { event := if st.eventType.isEmpty then "message" else st.eventType,
                data := String.ofList (if d.getLast? = some '\n' then d.dropLast else d) })

/-- One line as the standard reads it: a blank line dispatches, a field
line writes its buffer, and any other line is passed over. -/
def line (st : StandardBuffers) (t : String) : StandardBuffers × Option Frame :=
  if t.isEmpty then st.dispatch
  else
    match fieldOf t with
    | some (name, value) =>
      if name = "event" then ({ st with eventType := value }, none)
      else if name = "data" then ({ st with data := st.data ++ value ++ "\n" }, none)
      else (st, none)
    | none => (st, none)

/-- Lines one by one: the buffers after them and the frames dispatched. -/
def lines (st : StandardBuffers) : List String → StandardBuffers × List Frame
  | [] => (st, [])
  | t :: ts =>
    let step := st.line t
    let rest := step.1.lines ts
    (rest.1, step.2.toList ++ rest.2)

variable (st : StandardBuffers)

theorem line_empty : st.line "" = st.dispatch := rfl

theorem line_of_fieldOf_none {t : String} (ht : t ≠ "") (hf : fieldOf t = none) :
    st.line t = (st, none) := by
  have hne : t.isEmpty = false := by simpa [String.isEmpty_iff] using ht
  simp only [line, hne, Bool.false_eq_true, if_false, hf]

theorem line_of_fieldOf_some {t : String} (ht : t ≠ "") {f : String × String} (hf : fieldOf t = some f) :
    st.line t =
      if f.1 = "event" then ({ st with eventType := f.2 }, none)
      else if f.1 = "data" then ({ st with data := st.data ++ f.2 ++ "\n" }, none)
      else (st, none) := by
  have hne : t.isEmpty = false := by simpa [String.isEmpty_iff] using ht
  simp only [line, hne, Bool.false_eq_true, if_false, hf]

end StandardBuffers

/-- **The standard's reading of a body**: its text, one leading U+FEFF
dropped, cut into lines and interpreted from empty buffers. -/
def standardFrames (body : List UInt8) : List Frame :=
  let text := Utf8.decode body
  let text := if text.head? = some byteOrderMark then text.tail else text
  ((StandardBuffers.lines {} (standardLines text [])).2)

/-- A body in which every carriage return is followed by a line feed. -/
def CrBeforeLf : List UInt8 → Prop
  | [] => True
  | b :: rest => (b = 0x0D → rest.head? = some 0x0A) ∧ CrBeforeLf rest

instance decidableCrBeforeLf : (body : List UInt8) → Decidable (CrBeforeLf body)
  | [] => inferInstanceAs (Decidable True)
  | b :: rest =>
    have := decidableCrBeforeLf rest
    inferInstanceAs (Decidable ((b = 0x0D → rest.head? = some 0x0A) ∧ CrBeforeLf rest))

/-! ## The buffers follow the reader -/

/-- The standard's buffers hold what the reader holds: the same event
name, and the data lines so far each followed by a line feed. -/
def Mirrors (st : StandardBuffers) (r : FrameReader) : Prop :=
  st.eventType = r.event ∧ st.data = (if r.hasData then r.data ++ "\n" else "") ∧
    (r.hasData = false → r.data = "")

theorem mirrors_empty (p : List UInt8) : Mirrors {} { pending := p } := ⟨rfl, rfl, fun _ => rfl⟩

/-- **One line** gives the same frame from the buffers and the reader, and
they still mirror each other after it. -/
theorem line_mirror {st : StandardBuffers} {r : FrameReader} (h : Mirrors st r) (t : String) :
    (st.line t).2 = (r.line t).2 ∧ Mirrors (st.line t).1 (r.line t).1 := by
  obtain ⟨hev, hdata, hnone⟩ := h
  by_cases ht : t = ""
  · -- a blank line: both dispatch when a data line was read, and empty
    subst ht
    rw [StandardBuffers.line_empty, FrameReader.line_empty]
    cases hd : r.hasData
    · simp [StandardBuffers.dispatch, FrameReader.dispatch, hd, hdata, mirrors_empty]
    · simp [StandardBuffers.dispatch, FrameReader.dispatch, hd, hdata, hev, mirrors_empty]
  · cases hf : fieldOf t with
    | none =>
      rw [StandardBuffers.line_of_fieldOf_none st ht hf, FrameReader.line_of_fieldOf_none r ht hf]
      exact ⟨rfl, hev, hdata, hnone⟩
    | some f =>
      rw [StandardBuffers.line_of_fieldOf_some st ht hf, FrameReader.line_of_fieldOf_some r ht hf]
      by_cases hname : f.1 = "event"
      · rw [if_pos hname, if_pos hname]
        exact ⟨rfl, rfl, hdata, hnone⟩
      · rw [if_neg hname, if_neg hname]
        by_cases hdname : f.1 = "data"
        · -- a data line: the standard adds the value and a line feed, the
          -- reader the value, after a line feed when it had data
          rw [if_pos hdname, if_pos hdname]
          refine ⟨rfl, hev, ?_, fun h => by cases h⟩
          cases hd : r.hasData
          · simp [hdata, hd, hnone hd]
          · simp [hdata, hd, String.append_assoc]
        · rw [if_neg hdname, if_neg hdname]
          exact ⟨rfl, hev, hdata, hnone⟩

/-- **Every run of lines** gives the same frames from mirroring buffers and
reader. -/
theorem lines_mirror {st : StandardBuffers} {r : FrameReader} (h : Mirrors st r) (ts : List String) :
    (st.lines ts).2 = (r.lines ts).2 := by
  induction ts generalizing st r with
  | nil => rfl
  | cons t ts ih =>
    obtain ⟨hframe, hnext⟩ := line_mirror h t
    rw [StandardBuffers.lines, FrameReader.lines_cons]
    simp only [hframe, ih hnext]

/-! ## Lines of text -/

/-- A character that ends no line is added to the line being read. -/
theorem standardLines_plain {c : Char} (h1 : c ≠ '\r') (h2 : c ≠ '\n') (rest cur : List Char) :
    standardLines (c :: rest) cur = standardLines rest (c :: cur) :=
  standardLines.eq_5 cur c rest (fun _ h _ => h1 h) h1 h2

/-- Text with no line end is added to the line being read. -/
theorem standardLines_append_plain {cs : List Char} (h1 : '\r' ∉ cs) (h2 : '\n' ∉ cs)
    (rest cur : List Char) :
    standardLines (cs ++ rest) cur = standardLines rest (cs.reverse ++ cur) := by
  induction cs generalizing cur with
  | nil => rfl
  | cons c cs ih =>
    rw [List.mem_cons, not_or] at h1 h2
    rw [List.cons_append, standardLines_plain (Ne.symm h1.1) (Ne.symm h2.1), ih h1.2 h2.2]
    simp

/-- Text after the last line end is no line. -/
theorem standardLines_of_plain {cs : List Char} (h1 : '\r' ∉ cs) (h2 : '\n' ∉ cs) (cur : List Char) :
    standardLines cs cur = [] := by
  rw [← List.append_nil cs, standardLines_append_plain h1 h2]
  rfl

/-- Bytes with neither line end read as text with neither. -/
theorem decode_plain {l : List UInt8} (h1 : (0x0D : UInt8) ∉ l) (h2 : (0x0A : UInt8) ∉ l) :
    '\r' ∉ Utf8.decode l ∧ '\n' ∉ Utf8.decode l :=
  ⟨fun h => h1 (Utf8.mem_decode_ascii (a := 0x0D) (by decide) (by decide) l h),
    fun h => h2 (Utf8.mem_decode_ascii (a := 0x0A) (by decide) (by decide) l h)⟩

theorem dropWhile_cr_of_plain {cs : List Char} (h : '\r' ∉ cs) :
    cs.reverse.dropWhile (· = '\r') = cs.reverse := by
  cases hr : cs.reverse with
  | nil => rfl
  | cons c cs' =>
    have hc : c ≠ '\r' := fun hc => h (List.mem_reverse.1 (hr ▸ hc ▸ List.mem_cons_self ..))
    simp [hc]

/-- The reader's text of a line with no carriage return is the line read
as text. -/
theorem lineText_of_plain {l : List UInt8} (h : '\r' ∉ Utf8.decode l) :
    FrameReader.lineText l = String.ofList (Utf8.decode l) := by
  rw [FrameReader.lineText, dropWhile_cr_of_plain h, List.reverse_reverse]

/-- The reader drops the carriage return that ends a line. -/
theorem lineText_append_cr {l : List UInt8} (h : '\r' ∉ Utf8.decode l) :
    FrameReader.lineText (l ++ [0x0D]) = String.ofList (Utf8.decode l) := by
  rw [FrameReader.lineText, Utf8.decode_append_ascii (by decide), Utf8.decode.eq_1]
  simp only [List.reverse_append, List.reverse_cons, List.reverse_nil, List.nil_append]
  rw [List.singleton_append, List.dropWhile_cons_of_pos (by decide), dropWhile_cr_of_plain h,
    List.reverse_reverse]

/-! ## Lines of bytes -/

namespace CrBeforeLf

theorem of_append {l s : List UInt8} (h : CrBeforeLf (l ++ s)) : CrBeforeLf s := by
  induction l with
  | nil => exact h
  | cons b l ih => exact ih h.2

/-- Bytes with no line feed have no carriage return either. -/
theorem no_cr {rest : List UInt8} (h : CrBeforeLf rest) (hr : (0x0A : UInt8) ∉ rest) :
    (0x0D : UInt8) ∉ rest := by
  induction rest with
  | nil => simp
  | cons b rest ih =>
    rw [List.mem_cons, not_or] at hr ⊢
    refine ⟨fun hb => ?_, ih h.2 hr.2⟩
    -- a carriage return there would need a line feed after it
    have hnext := h.1 hb.symm
    cases rest with
    | nil => simp at hnext
    | cons x xs =>
      simp only [List.head?_cons, Option.some.injEq] at hnext
      exact hr.2 (hnext ▸ List.mem_cons_self ..)

/-- A line that a line feed ends has a carriage return only as its last
byte. -/
theorem line {l s : List UInt8} (h : CrBeforeLf (l ++ 0x0A :: s)) (hl : (0x0A : UInt8) ∉ l) :
    ∃ l', (0x0D : UInt8) ∉ l' ∧ (l = l' ∨ l = l' ++ [0x0D]) := by
  induction l with
  | nil => exact ⟨[], by simp, .inl rfl⟩
  | cons b l ih =>
    rw [List.mem_cons, not_or] at hl
    by_cases hb : b = 0x0D
    · -- the byte after the carriage return is a line feed, so the line ends there
      have hnext : (l ++ 0x0A :: s).head? = some 0x0A := h.1 hb
      cases l with
      | nil => exact ⟨[], by simp, .inr (by rw [hb]; rfl)⟩
      | cons x xs =>
        simp only [List.cons_append, List.head?_cons, Option.some.injEq] at hnext
        exact absurd (hnext ▸ List.mem_cons_self ..) hl.2
    · obtain ⟨l', hl', hcases⟩ := ih h.2 hl.2
      refine ⟨b :: l', by simp [Ne.symm hb, hl'], ?_⟩
      rcases hcases with rfl | rfl
      · exact .inl rfl
      · exact .inr rfl

end CrBeforeLf

/-- **One line and its line feed**: the standard ends a line there, and
that line is the reader's. -/
theorem standardLines_line {l : List UInt8} (hl : (0x0A : UInt8) ∉ l)
    (hcr : ∃ l', (0x0D : UInt8) ∉ l' ∧ (l = l' ∨ l = l' ++ [0x0D])) (s : List UInt8) :
    standardLines (Utf8.decode (l ++ 0x0A :: s)) [] =
      FrameReader.lineText l :: standardLines (Utf8.decode s) [] := by
  obtain ⟨l', hl', rfl | rfl⟩ := hcr
  · -- the line ends at its line feed
    obtain ⟨h1, h2⟩ := decode_plain hl' hl
    rw [Utf8.decode_append_ascii (by decide), standardLines_append_plain h1 h2, lineText_of_plain h1]
    simp [standardLines]
  · -- the line ends at its CR LF pair
    have hl'' : (0x0A : UInt8) ∉ l' := fun h => hl (List.mem_append_left _ h)
    obtain ⟨h1, h2⟩ := decode_plain hl' hl''
    rw [List.append_assoc, List.singleton_append, Utf8.decode_append_ascii (by decide),
      Utf8.decode_cons_ascii (by decide), standardLines_append_plain h1 h2, lineText_append_cr h1]
    simp [standardLines]

/-- **The standard's lines are the reader's** when every carriage return is
followed by a line feed: each line then ends at its line feed, after at
most one carriage return, and the bytes after the last line feed end no
line. -/
theorem standardLines_joinLines {ls : List (List UInt8)} {rest : List UInt8}
    (hl : ∀ l ∈ ls, (0x0A : UInt8) ∉ l) (hr : (0x0A : UInt8) ∉ rest)
    (hcr : CrBeforeLf (joinLines ls rest)) :
    standardLines (Utf8.decode (joinLines ls rest)) [] = ls.map FrameReader.lineText := by
  induction ls with
  | nil =>
    obtain ⟨h1, h2⟩ := decode_plain (hcr.no_cr hr) hr
    exact standardLines_of_plain h1 h2 []
  | cons l ls ih =>
    have hl0 : (0x0A : UInt8) ∉ l := hl l (List.mem_cons_self ..)
    rw [joinLines_cons] at hcr ⊢
    rw [standardLines_line hl0 (hcr.line hl0),
      ih (fun l' h' => hl l' (List.mem_cons_of_mem _ h')) hcr.of_append.2, List.map_cons]

/-- **One push of a whole body gives the standard's frames**, when every
carriage return of the body is followed by a line feed and its text does
not start with a byte order mark. -/
theorem push_eq_standardFrames (S : List UInt8) (hcr : CrBeforeLf S)
    (hbom : (Utf8.decode S).head? ≠ some byteOrderMark) :
    (FrameReader.push {} S).2 = standardFrames S := by
  obtain ⟨ls, rest, hl, hr, rfl⟩ := exists_joinLines S
  rw [FrameReader.push_joinLines {} (joinLines ls rest) hl hr rfl, standardFrames]
  simp only [hbom, if_false]
  rw [standardLines_joinLines hl hr hcr]
  exact (lines_mirror (mirrors_empty []) _).symm

/-- A body with CR LF line ends: `data: hi`, then a blank line. -/
theorem crlf_body_read_as_standard :
    CrBeforeLf [0x64, 0x61, 0x74, 0x61, 0x3A, 0x20, 0x68, 0x69, 0x0D, 0x0A, 0x0D, 0x0A] ∧
      (Utf8.decode [0x64, 0x61, 0x74, 0x61, 0x3A, 0x20, 0x68, 0x69, 0x0D, 0x0A, 0x0D, 0x0A]).head? ≠
        some byteOrderMark ∧
      (FrameReader.push {} [0x64, 0x61, 0x74, 0x61, 0x3A, 0x20, 0x68, 0x69, 0x0D, 0x0A, 0x0D, 0x0A]).2 =
        standardFrames [0x64, 0x61, 0x74, 0x61, 0x3A, 0x20, 0x68, 0x69, 0x0D, 0x0A, 0x0D, 0x0A] := by
  have hcr : CrBeforeLf [0x64, 0x61, 0x74, 0x61, 0x3A, 0x20, 0x68, 0x69, 0x0D, 0x0A, 0x0D, 0x0A] := by
    decide
  have hbom : (Utf8.decode [0x64, 0x61, 0x74, 0x61, 0x3A, 0x20, 0x68, 0x69, 0x0D, 0x0A, 0x0D, 0x0A]).head? ≠
      some byteOrderMark := by
    rw [Utf8.decode_cons_ascii (by decide)]
    decide
  exact ⟨hcr, hbom, push_eq_standardFrames _ hcr hbom⟩

/-- **A lone carriage return and a leading byte order mark part the
readings.** `data: x` ended by two carriage returns is a line and a blank
line to the standard, and no line to the reader; `data: y` after a byte
order mark is a `data` line to the standard, and a field named U+FEFF
`data` to the reader. -/
theorem reader_misses_lone_cr_and_bom :
    (FrameReader.push {} [0x64, 0x61, 0x74, 0x61, 0x3A, 0x20, 0x78, 0x0D, 0x0D]).2 = [] ∧
      standardFrames [0x64, 0x61, 0x74, 0x61, 0x3A, 0x20, 0x78, 0x0D, 0x0D] =
        [{ event := "message", data := "x" }] ∧
      (FrameReader.push {} [0xEF, 0xBB, 0xBF, 0x64, 0x61, 0x74, 0x61, 0x3A, 0x20, 0x79, 0x0A, 0x0A]).2 = [] ∧
      standardFrames [0xEF, 0xBB, 0xBF, 0x64, 0x61, 0x74, 0x61, 0x3A, 0x20, 0x79, 0x0A, 0x0A] =
        [{ event := "message", data := "y" }] := by
  refine ⟨by decide, by decide +kernel, by decide +kernel, by decide +kernel⟩

end RoomConsole.Event
