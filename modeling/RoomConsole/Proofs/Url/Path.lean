import RoomConsole.Proofs.Url.Percent

/-!
# Reading paths

`parsePath` reads a path one segment at a time: `readSegment` cuts the next
segment off the input and `stepPath` (the loop's body, named here) adds it to
the path, resolving `.` and `..`. A result about the whole loop is a step
lemma about `stepPath` carried through it by induction on the fuel.

* `pushSegment` encodes the whole text as one segment, after dropping its
  tabs and line breaks; the text then reads as itself, or as `.` or `..`
  when that is what is left (`pushSegment_of_plain`, `pushSegment_of_dot`,
  `pushSegment_of_dotdot`).
* A relative route of plain segments resolved against a path ending in a
  slash is appended to it, and the base's query and fragment are dropped
  (`join_route`).
* `setPath` on a URL that can be a base reads the new path from its start
  (`setPath_eq`), and `Url.parse` reads a path from where the authority ends
  (`afterDoubleSlash_path`, `fileUrl_path`).
-/

namespace RoomConsole.Url

open RoomConsole.Text

/-! ## One step of reading a path -/

/-- The path a `..` segment leaves: its last segment dropped. -/
def dropDotDot (path : List Char) : List Char :=
  let p := if path.getLast? = some '/' && slashBeforeLast path then path.dropLast else path
  if p.isEmpty then p else popSegment p

/-- The path after one segment is read: the step `parsePath` repeats. -/
def stepPath (path seg : List Char) (ended : Bool) : List Char :=
  if isDoubleDot seg then
    let p := dropDotDot path
    if ended && p.getLast? ≠ some '/' then p ++ ['/'] else p
  else if isSingleDot seg then
    if path.getLast? ≠ some '/' then path ++ ['/'] else path
  else if ended then path ++ seg ++ ['/'] else path ++ seg

theorem parsePath_succ {special : Bool} {ctx : Context} {input seg rest : List Char} {ended : Bool}
    (h : readSegment special ctx input = (seg, ended, rest)) (n : Nat) (path : List Char) :
    parsePath special ctx (n + 1) path input =
      if ended then parsePath special ctx n (stepPath path seg ended) rest else (stepPath path seg ended, rest) := by
  rw [parsePath, h]
  rfl

/-- A segment that is no dot segment is added as it is. -/
theorem stepPath_plain {seg : List Char} (hd : isDoubleDot seg = false) (hs : isSingleDot seg = false)
    (path : List Char) (ended : Bool) :
    stepPath path seg ended = if ended then path ++ seg ++ ['/'] else path ++ seg := by
  simp [stepPath, hd, hs]

theorem readSegment_nil (special : Bool) (ctx : Context) : readSegment special ctx [] = ([], false, []) := rfl

/-- Dropping the segment after the last slash. -/
theorem popSegment_of_last_slash {q r : List Char} (hr : '/' ∉ r) : popSegment (q ++ '/' :: r) = q ++ ['/'] := by
  have hf : (r.zipIdx (q.length + 1)).filter (·.1 = '/') = [] := by
    rw [List.filter_eq_nil_iff]
    intro x hx
    have := List.fst_mem_of_mem_zipIdx hx
    simp only [decide_eq_true_eq]
    intro h
    exact hr (h ▸ this)
  rw [popSegment, List.zipIdx_append]
  simp [List.filter_append, List.zipIdx_cons, hf, List.take_append, List.take_of_length_le]

/-- `..` after `q/r/` leaves `q/`. -/
theorem dropDotDot_of_last_slash {q r : List Char} (hr : '/' ∉ r) :
    dropDotDot (q ++ '/' :: r ++ ['/']) = q ++ ['/'] := by
  have hlast : (q ++ '/' :: r ++ ['/']).getLast? = some '/' := List.getLast?_concat
  have hbefore : slashBeforeLast (q ++ '/' :: r ++ ['/']) = true := by
    rw [slashBeforeLast, List.dropLast_concat]
    simp
  simp only [dropDotDot, hlast, hbefore, decide_true, Bool.and_self, if_true, List.dropLast_concat]
  simp [popSegment_of_last_slash hr]

/-- A slash at the start of a path is read as the root. -/
theorem parsePath_root_slash (special : Bool) {ctx : Context} (hctx : ctx ≠ .segment) (n : Nat)
    (input : List Char) : parsePath special ctx (n + 1) [] ('/' :: input) = parsePath special ctx n ['/'] input := by
  have hr : readSegment special ctx ('/' :: input) = ([], true, input) := by simp [readSegment, hctx]
  rw [parsePath_succ hr]
  rfl

/-! ## Pushing one segment -/

/-- The set a pushed segment is encoded with. -/
def segmentSet (special : Bool) : EncodeSet := if special then .specialPathSegment else .pathSegment

theorem segmentSet_encodes_percent (special : Bool) : (segmentSet special).encodes 0x25 = true := by
  cases special <;> decide

/-- Read as one segment, a text has no end but its own: every character is encoded. -/
theorem readSegment_segment (special : Bool) :
    ∀ input : List Char,
      readSegment special .segment input = (input.flatMap (encodeChar (segmentSet special)), false, [])
  | [] => rfl
  | c :: rest => by
    rw [readSegment, List.flatMap_cons, readSegment_segment special rest]
    simp [segmentSet]

/-- One segment is read whole: its encoded text is the one step. -/
theorem parsePath_segment (special : Bool) (n : Nat) (path input : List Char) :
    parsePath special .segment (n + 1) path input =
      (stepPath path (encode (segmentSet special) (String.ofList input)).toList false, []) := by
  rw [parsePath_succ (readSegment_segment special input), toList_encode]
  rfl

/-- A text with its tabs and line breaks removed, as a pushed segment reads it. -/
def dropTabsAndNewlines (s : String) : String := String.ofList (s.toList.filter (!isTabOrNewline ·))

theorem dropTabsAndNewlines_of_forall {s : String} (h : ∀ c ∈ s.toList, isTabOrNewline c = false) :
    dropTabsAndNewlines s = s := by
  rw [dropTabsAndNewlines, List.filter_eq_self.2 (by simpa using h), String.ofList_toList]

section
variable {u : Url} {s : String}

/-- Changing a path keeps the scheme's kind. -/
@[simp] theorem special_withPath (u : Url) (x : String) : ({ u with path := x } : Url).special = u.special := rfl

theorem pushSegment_path (hs : s ≠ "." ∧ s ≠ "..") (hlen : 1 < u.path.toList.length) :
    u.pushSegment s = { u with path := String.ofList (parsePath u.special .segment
      ((dropTabsAndNewlines s).toList.length + 1) (u.path.toList ++ ['/']) (dropTabsAndNewlines s).toList).1 } := by
  have h1 : (s = "." || s = "..") = false := by simp [hs.1, hs.2]
  have h2 : (u.path.toList.length > 1 || u.path.toList.isEmpty) = true := by simp [hlen]
  simp only [Url.pushSegment, h1, h2, dropTabsAndNewlines, String.toList_ofList]
  rfl

/-- A segment that does not read as a dot segment is added, encoded, after a slash. -/
theorem pushSegment_of_plain (hs : s ≠ "." ∧ s ≠ "..") (hlen : 1 < u.path.toList.length)
    (hd : dropTabsAndNewlines s ≠ "." ∧ dropTabsAndNewlines s ≠ "..") :
    u.pushSegment s = { u with path := u.path ++ "/" ++ encode (segmentSet u.special) (dropTabsAndNewlines s) } := by
  have h1 : isDoubleDot (encode (segmentSet u.special) (dropTabsAndNewlines s)).toList = false :=
    Bool.eq_false_iff.2 fun h => hd.2 (eq_of_isDoubleDot_encode (segmentSet_encodes_percent _) h)
  have h2 : isSingleDot (encode (segmentSet u.special) (dropTabsAndNewlines s)).toList = false :=
    Bool.eq_false_iff.2 fun h => hd.1 (eq_of_isSingleDot_encode (segmentSet_encodes_percent _) h)
  rw [pushSegment_path hs hlen, parsePath_segment, String.ofList_toList, stepPath_plain h1 h2]
  simp [String.append_assoc]

/-- A segment that reads as `.` leaves an empty segment. -/
theorem pushSegment_of_dot (hs : s ≠ "." ∧ s ≠ "..") (hlen : 1 < u.path.toList.length)
    (hd : dropTabsAndNewlines s = ".") : u.pushSegment s = { u with path := u.path ++ "/" } := by
  rw [pushSegment_path hs hlen, parsePath_segment, String.ofList_toList, hd]
  have hdot : (encode (segmentSet u.special) ".").toList = ['.'] := by
    rw [encode_of_safe (by cases u.special <;> decide)]
    rfl
  simp [hdot, stepPath, isDoubleDot, isSingleDot]

/-- A segment that reads as `..` takes the last segment off. -/
theorem pushSegment_of_dotdot (hs : s ≠ "." ∧ s ≠ "..") (hlen : 1 < u.path.toList.length) {q r : List Char}
    (hq : u.path.toList = q ++ '/' :: r) (hr : '/' ∉ r) (hd : dropTabsAndNewlines s = "..") :
    u.pushSegment s = { u with path := String.ofList (q ++ ['/']) } := by
  rw [pushSegment_path hs hlen, parsePath_segment, String.ofList_toList, hd]
  have hdot : (encode (segmentSet u.special) "..").toList = ['.', '.'] := by
    rw [encode_of_safe (by cases u.special <;> decide)]
    rfl
  have hdd : isDoubleDot ['.', '.'] = true := by decide
  rw [hdot, stepPath, if_pos hdd, hq, dropDotDot_of_last_slash hr]
  simp

/-- A name with no tab or line break that its segment set leaves alone is
pushed as itself. -/
theorem pushSegment_of_safe {x : String} (hdot : x ≠ "." ∧ x ≠ "..")
    (hx : x.toList.all (fun c => !isTabOrNewline c && keepsChar (segmentSet u.special) c) = true)
    (hlen : 1 < u.path.toList.length) : u.pushSegment x = { u with path := u.path ++ "/" ++ x } := by
  have hc : ∀ c ∈ x.toList, (!isTabOrNewline c) = true ∧ keepsChar (segmentSet u.special) c = true :=
    fun c hc => Bool.and_eq_true_iff.1 (List.all_eq_true.1 hx c hc)
  have hd : dropTabsAndNewlines x = x := dropTabsAndNewlines_of_forall fun c h => by simpa using (hc c h).1
  rw [pushSegment_of_plain hdot hlen (by rw [hd]; exact hdot), hd,
    encode_of_safe (List.all_eq_true.2 fun c h => (hc c h).2)]

end

/-! ## Plain routes -/

/-- Whether a path keeps a character as it is and reads it inside one segment. -/
def plainPathChar (c : Char) : Bool :=
  c ≠ '/' && c ≠ '\\' && c ≠ '?' && c ≠ '#' && keepsChar .path c

/-- Plain characters are read into the segment as they are. -/
theorem readSegment_plain (special : Bool) {x : List Char} (hx : x.all plainPathChar = true) (rest : List Char) :
    readSegment special .whole (x ++ rest) =
      (x ++ (readSegment special .whole rest).1, (readSegment special .whole rest).2) := by
  induction x with
  | nil => simp
  | cons c x ih =>
    rw [List.all_cons, Bool.and_eq_true] at hx
    have hc : c ≠ '/' ∧ c ≠ '\\' ∧ c ≠ '?' ∧ c ≠ '#' ∧ c.toNat < 0x80 ∧
        EncodeSet.path.encodes c.toNat.toUInt8 = false := by
      simpa [plainPathChar, keepsChar, and_assoc] using hx.1
    obtain ⟨h1, h2, h3, h4, h5, h6⟩ := hc
    rw [List.cons_append, readSegment, ih hx.2]
    simp [h1, h2, h3, h4, encodeChar_of_safe h5 h6]

/-- A last segment of plain characters is added as it is. -/
theorem parsePath_plain (special : Bool) (n : Nat) (path : List Char) {x : List Char}
    (hx : x.all plainPathChar = true) (hd : isDoubleDot x = false) (hs : isSingleDot x = false) :
    parsePath special .whole (n + 1) path x = (path ++ x, []) := by
  have hr : readSegment special .whole x = (x, false, []) := by
    simpa [readSegment_nil] using readSegment_plain special hx []
  rw [parsePath_succ hr, if_neg Bool.false_ne_true, stepPath_plain hd hs]
  rfl

/-- A segment of plain characters ended by a slash is added with its slash. -/
theorem parsePath_plain_slash (special : Bool) (n : Nat) (path : List Char) {x : List Char}
    (hx : x.all plainPathChar = true) (hd : isDoubleDot x = false) (hs : isSingleDot x = false) (y : List Char) :
    parsePath special .whole (n + 1) path (x ++ '/' :: y) = parsePath special .whole n (path ++ x ++ ['/']) y := by
  have hslash : readSegment special .whole ('/' :: y) = ([], true, y) := by simp [readSegment]
  have hr : readSegment special .whole (x ++ '/' :: y) = (x, true, y) := by
    simpa [hslash] using readSegment_plain special hx ('/' :: y)
  rw [parsePath_succ hr, if_pos rfl, stepPath_plain hd hs]
  rfl

/-- Two plain segments with a slash between them are added as they are. -/
theorem parsePath_plain_two (special : Bool) {n : Nat} (hn : 1 ≤ n) (path : List Char) {x y : List Char}
    (hx : x.all plainPathChar = true) (hdx : isDoubleDot x = false) (hsx : isSingleDot x = false)
    (hy : y.all plainPathChar = true) (hdy : isDoubleDot y = false) (hsy : isSingleDot y = false) :
    parsePath special .whole (n + 1) path (x ++ '/' :: y) = (path ++ (x ++ '/' :: y), []) := by
  obtain ⟨m, rfl⟩ : ∃ m, n = m + 1 := ⟨n - 1, by omega⟩
  rw [parsePath_plain_slash special (m + 1) path hx hdx hsx, parsePath_plain special m _ hy hdy hsy]
  simp

/-- A relative route of plain segments, resolved against a base whose path
ends in a slash, is that path with the route after it; the base's query and
fragment are dropped. -/
theorem join_route {b : Url} (hb : b.cannotBeABase = false) {p : String} (hp : b.path = p ++ "/")
    {r : String} {c : Char} {rest : List Char} (hr : r.toList = c :: rest) (hclean : cleanInput r = r.toList)
    (hs : readScheme r.toList = none) (hc : c ≠ '/' ∧ c ≠ '\\' ∧ c ≠ '?' ∧ c ≠ '#')
    (hparse : parsePath b.special .whole (r.toList.length + 1) (p.toList ++ ['/']) r.toList =
      ((p.toList ++ ['/']) ++ r.toList, [])) :
    b.join r = .ok { b with path := b.path ++ r, query := none, fragment := none } := by
  have hpop : popSegment b.path.toList = p.toList ++ ['/'] := by
    rw [hp, String.toList_append]
    exact popSegment_of_last_slash (r := []) (by simp)
  have hne : b.path.isEmpty = false := by
    rw [hp]
    simp
  have hrel : relative b (c :: rest) = .ok { b with path := b.path ++ r, query := none, fragment := none } := by
    unfold relative
    -- the route starts with none of `?`, `#`, `/` and `\`
    split
    · contradiction
    · next heq => exact absurd (List.cons.inj heq).1 hc.2.2.1
    · next heq => exact absurd (List.cons.inj heq).1 hc.2.2.2
    · next _ c' rest' _ _ heq =>
      obtain ⟨rfl, rfl⟩ := List.cons.inj heq
      have hslash : (c = '/' || c = '\\') = false := by simp [hc.1, hc.2.1]
      rw [hr] at hparse
      have hnil : (p.toList ++ ['/']).isEmpty = false := by simp
      have hq : queryAndFragment b.special [] = (none, none) := rfl
      simp only [hslash, hne, hpop, hnil, Bool.false_and, Bool.false_eq_true, if_false, hparse, hq]
      rw [hp, ← hr]
      congr 2
      exact String.toList_inj.1 (by simp)
  simp only [Url.join, Url.parseWith, hclean, hs]
  rw [hr]
  simp only [hb]
  split
  · next heq => exact absurd (List.cons.inj heq).1 hc.2.2.2
  · exact hrel

/-! ## Setting a path -/

/-- On a URL that can be a base, `setPath` reads the new path from its start. -/
theorem setPath_eq {u : Url} (hu : u.cannotBeABase = false) (p : String) :
    u.setPath p = { u with path := String.ofList (parsePathStart u.special .setter []
      (p.toList.filter (!isTabOrNewline ·))).1 } := by
  simp only [Url.setPath, hu, Bool.false_eq_true, if_false]

/-! ## Parsed paths -/

/-- After `scheme://` the path is read from where the authority ends. -/
theorem afterDoubleSlash_path {scheme : String} {input : List Char} {u : Url}
    (h : afterDoubleSlash scheme input = .ok u) :
    u.scheme = scheme ∧ u.authority = true ∧
      ∃ rest, u.path = String.ofList (parsePathStart (isSpecialScheme scheme) .whole [] rest).1 := by
  unfold afterDoubleSlash at h
  simp only [bind, Except.bind, pure, Except.pure] at h
  -- every exit of the reading but the last is an error
  repeat' split at h
  all_goals cases h
  all_goals exact ⟨rfl, rfl, _, rfl⟩

/-- A file URL's path is read from its start. -/
theorem fileUrl_path {input : List Char} {u : Url} (h : fileUrl input = .ok u) :
    u.scheme = "file" ∧ ∃ rest, u.path = String.ofList (parsePathStart true .whole [] rest).1 := by
  unfold fileUrl at h
  simp only [bind, Except.bind, pure, Except.pure] at h
  -- every exit of the reading but the two paths is an error
  repeat' split at h
  all_goals cases h
  all_goals exact ⟨rfl, _, rfl⟩

end RoomConsole.Url
