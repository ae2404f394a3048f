import RoomConsole.Proofs.Client.Routes

/-!
# Reading a URL's text back

`Url.parse` reads back what `Url.text` writes, for a URL in the form parsing
gives it (`ReadsBack`): a special scheme other than `file`, no user name or
password, a host written in plain characters that `Host.parse` reads as
itself, a port that is no default, a settled path, and a query and a
fragment as encoding leaves them (`parse_text`). Each part is read by its
own lemma, as the parser's states read it: the scheme, the host text up to
the port or the path (`hostText_plain`), the port's digits
(`readPort_toString`), the path segment by segment (`parsePathStart_read`),
the query and the fragment (`queryAndFragment_read`).

Parsing leaves every part but the host in that form (`parse_parts`, with
`parse_settled` for the path), and the API root path is its own API root
path (`apiRootPath_apiRootPath`). So the API root a client is built with
normalizes to itself from its own text (`normalizeBase_text`). Hosts are
taken as `Host.parse` reads them; what IDNA and the IPv4 and IPv6 readers
do is not opened here.
-/

namespace RoomConsole.Url

/-- A character a host is written with here: printable ASCII that ends
nothing in the authority and is no `@` or bracket. -/
def plainHostChar (c : Char) : Bool :=
  0x20 < c.toNat && c.toNat < 0x7F && !([':', '/', '\\', '?', '#', '@', '[', ']'].contains c)

theorem plainHostChar_iff {c : Char} :
    plainHostChar c = true ↔ (0x20 < c.toNat ∧ c.toNat < 0x7F) ∧ c ≠ ':' ∧ c ≠ '/' ∧ c ≠ '\\' ∧ c ≠ '?' ∧
      c ≠ '#' ∧ c ≠ '@' ∧ c ≠ '[' ∧ c ≠ ']' := by
  simp only [plainHostChar, Bool.and_eq_true, decide_eq_true_eq, Bool.not_eq_true', List.contains_eq_mem,
    decide_eq_false_iff_not, List.mem_cons, List.not_mem_nil, or_false, not_or, ne_eq]

/-- A text with no control character and no space is read as it is. -/
theorem cleanInput_of_printable {s : String} (h : ∀ c ∈ s.toList, 0x20 < c.toNat) : cleanInput s = s.toList := by
  have hkeep : ∀ l : List Char, (∀ c ∈ l, 0x20 < c.toNat) → l.dropWhile isC0OrSpace = l := by
    intro l hl
    cases l with
    | nil => rfl
    | cons c l =>
      have hc := hl c List.mem_cons_self
      exact List.dropWhile_cons_of_neg (by simp [isC0OrSpace]; omega)
  have hrev : ∀ c ∈ s.toList.reverse, 0x20 < c.toNat := fun c hc => h c (List.mem_reverse.1 hc)
  unfold cleanInput
  rw [hkeep _ h, hkeep _ hrev, List.reverse_reverse, List.filter_eq_self]
  intro c hc
  have := h c hc
  simp only [isTabOrNewline, Bool.not_eq_true', Bool.or_eq_false_iff, decide_eq_false_iff_not]
  refine ⟨⟨?_, ?_⟩, ?_⟩ <;> intro he <;> subst he <;> simp at this

theorem readScheme_special {s : String} (hs : s ∈ ["http", "https", "ws", "wss", "ftp"]) (rest : List Char) :
    readScheme (s.toList ++ ':' :: rest) = some (s, rest) := by
  simp only [List.mem_cons, List.not_mem_nil, or_false] at hs
  rcases hs with rfl | rfl | rfl | rfl | rfl <;> rfl

/-- The host text reads plain characters as they are. -/
theorem hostText_plain (special : Bool) {xs : List Char} (hx : xs.all plainHostChar = true) (rest : List Char) :
    hostText special false (xs ++ rest) =
      (xs ++ (hostText special false rest).1, (hostText special false rest).2) := by
  induction xs with
  | nil => rfl
  | cons c xs ih =>
    rw [List.all_cons, Bool.and_eq_true] at hx
    obtain ⟨-, h1, h2, h3, h4, h5, -, h6, h7⟩ := plainHostChar_iff.1 hx.1
    rw [List.cons_append, hostText]
    simp [h1, h2, h3, h4, h5, h6, h7, ih hx.2]

/-- The port reader's fold is `Nat.ofDigitChars`. -/
theorem foldl_digits (l : List Char) :
    l.foldl (fun a c => a * 10 + (c.toNat - 48)) 0 = Nat.ofDigitChars 10 l 0 := by
  rw [Nat.ofDigitChars_eq_foldl]
  congr 1
  funext a c
  rw [Nat.mul_comm]
  rfl

/-- A prefix of a numeral is worth at most the numeral. -/
theorem ofDigitChars_take_le (l : List Char) (k : Nat) :
    Nat.ofDigitChars 10 (l.take k) 0 ≤ Nat.ofDigitChars 10 l 0 := by
  calc Nat.ofDigitChars 10 (l.take k) 0
      ≤ 10 ^ (l.drop k).length * Nat.ofDigitChars 10 (l.take k) 0 :=
        Nat.le_mul_of_pos_left _ (Nat.pow_pos (by decide))
    _ ≤ 10 ^ (l.drop k).length * Nat.ofDigitChars 10 (l.take k) 0 + Nat.ofDigitChars 10 (l.drop k) 0 :=
        Nat.le_add_right _ _
    _ = Nat.ofDigitChars 10 l 0 := by
        rw [← Nat.ofDigitChars_eq_ofDigitChars_zero, ← Nat.ofDigitChars_append, List.take_append_drop]

/-- **A port reads back.** The decimal text of a port that is no default,
followed by a path, is read as that port. -/
theorem readPort_toString {scheme : String} {p : Nat} (hp : p ≤ 65535) (hd : some p ≠ defaultPort scheme)
    {rest : List Char} (hr : rest.head? = some '/') :
    readPort scheme ((toString p).toList ++ rest) = .ok (some p, rest) := by
  have hdigits : (toString p).toList = Nat.toDigits 10 p := by
    rw [Nat.toString_eq_ofList_toDigits, String.toList_ofList]
  obtain ⟨r, rfl⟩ : ∃ r, rest = '/' :: r := by
    cases rest with
    | nil => cases hr
    | cons c r => exact ⟨r, by simp_all⟩
  have htake : ((toString p).toList ++ '/' :: r).takeWhile Char.isDigit = Nat.toDigits 10 p := by
    rw [hdigits, List.takeWhile_append_of_pos fun c hc => Nat.isDigit_of_mem_toDigits (by decide) (by decide) hc]
    simp
  have hvalue : (Nat.toDigits 10 p).foldl (fun a c => a * 10 + (c.toNat - 48)) 0 = p := by
    rw [foldl_digits, Nat.ofDigitChars_ten_toDigits]
  -- no prefix of the numeral is worth more than the port
  have hbound : ∀ i, ((Nat.toDigits 10 p).take (i + 1)).foldl (fun a c => a * 10 + (c.toNat - 48)) 0 ≤ 65535 := by
    intro i
    have := ofDigitChars_take_le (Nat.toDigits 10 p) (i + 1)
    rw [Nat.ofDigitChars_ten_toDigits] at this
    rw [foldl_digits]
    omega
  unfold readPort
  simp only [htake, hvalue]
  rw [if_neg (by
    rw [Bool.not_eq_true, List.any_eq_false]
    rintro ⟨c, i⟩ _
    simpa using hbound i)]
  rw [hdigits, List.drop_left]
  simp [hd, Nat.toDigits_ne_nil]

/-- A settled character is read into a whole URL's path segment as itself. -/
theorem readSegment_whole_cons {special : Bool} {c : Char} (hc : settledChar special c = true) (rest : List Char) :
    readSegment special .whole (c :: rest) =
      (c :: (readSegment special .whole rest).1, (readSegment special .whole rest).2) := by
  obtain ⟨hk, hslash, hback⟩ := settledChar_iff.1 hc
  have hk' : c.toNat < 0x80 ∧ EncodeSet.path.encodes c.toNat.toUInt8 = false := by simpa [keepsChar] using hk
  -- `?` and `#` are encoded in a path, so a settled character is neither
  have hq : c ≠ '?' := by
    rintro rfl
    exact absurd hk'.2 (by decide)
  have hh : c ≠ '#' := by
    rintro rfl
    exact absurd hk'.2 (by decide)
  rw [readSegment]
  simp [hslash, hq, hh, encodeChar_of_safe hk'.1 hk'.2]
  exact fun hb => Bool.eq_false_iff.2 fun hs => hback ⟨hs, hb⟩

theorem readSegment_whole_append {special : Bool} {seg : List Char} (h : seg.all (settledChar special) = true)
    (rest : List Char) :
    readSegment special .whole (seg ++ rest) =
      (seg ++ (readSegment special .whole rest).1, (readSegment special .whole rest).2) := by
  induction seg with
  | nil => rfl
  | cons c seg ih =>
    rw [List.all_cons, Bool.and_eq_true] at h
    rw [List.cons_append, readSegment_whole_cons h.1, ih h.2]
    rfl

/-- A whole URL reads settled segments back, the first without its slash,
the others each after one; induction on the segments after the first. -/
theorem parsePath_whole_read (special : Bool) {rest : List Char}
    (hend : readSegment special .whole rest = ([], false, rest)) :
    ∀ (ss : List (List Char)) (s : List Char) (n : Nat) (path : List Char),
      (s :: ss).all (settledSegment special) = true → ss.length < n →
      parsePath special .whole n path (s ++ joinSegments ss ++ rest) = (path ++ s ++ joinSegments ss, rest)
  | [], s, n, path, h, hn => by
    obtain ⟨m, rfl⟩ : ∃ m, n = m + 1 := ⟨n - 1, by simp at hn; omega⟩
    have hs := settledSegment_iff.1 (by simpa using h)
    have hread : readSegment special .whole (s ++ joinSegments [] ++ rest) = (s, false, rest) := by
      rw [joinSegments_nil, List.append_nil, readSegment_whole_append hs.1, hend, List.append_nil]
    rw [parsePath_succ hread, stepPath_plain hs.2.1 hs.2.2]
    simp
  | t :: ts, s, n, path, h, hn => by
    obtain ⟨m, rfl⟩ : ∃ m, n = m + 1 := ⟨n - 1, by simp at hn; omega⟩
    rw [List.all_cons, Bool.and_eq_true] at h
    have hs := settledSegment_iff.1 h.1
    have hjoin : joinSegments (t :: ts) = '/' :: (t ++ joinSegments ts) := by simp [joinSegments]
    have hread : readSegment special .whole (s ++ joinSegments (t :: ts) ++ rest) =
        (s, true, t ++ joinSegments ts ++ rest) := by
      rw [hjoin, List.append_assoc, readSegment_whole_append hs.1]
      simp [readSegment]
    rw [parsePath_succ hread, if_pos rfl, stepPath_plain hs.2.1 hs.2.2, if_pos rfl,
      parsePath_whole_read special hend ts t m _ h.2 (by simpa using hn), hjoin]
    simp

/-- Each segment of a path comes with its slash. -/
theorem length_le_joinSegments (ss : List (List Char)) : ss.length ≤ (joinSegments ss).length := by
  induction ss with
  | nil => simp
  | cons s ss ih =>
    simp only [joinSegments, List.flatMap_cons, List.length_append, List.length_cons] at ih ⊢
    omega

/-- **A settled path reads back.** A special URL's path of settled segments,
followed by the end of the text, a query or a fragment, is read as itself. -/
theorem parsePathStart_read {ss : List (List Char)} (hss : ss ≠ []) (h : ss.all (settledSegment true) = true)
    {rest : List Char} (hend : readSegment true .whole rest = ([], false, rest)) :
    parsePathStart true .whole [] (joinSegments ss ++ rest) = (joinSegments ss, rest) := by
  obtain ⟨s, ts, rfl⟩ := List.exists_cons_of_ne_nil hss
  have hjoin : joinSegments (s :: ts) ++ rest = '/' :: (s ++ joinSegments ts ++ rest) := by
    simp [joinSegments]
  unfold parsePathStart
  rw [hjoin]
  simp only [ite_true, List.getLast?_nil, ne_eq, reduceCtorEq, not_false_eq_true]
  have hfuel := length_le_joinSegments ts
  rw [parsePath_whole_read true hend ts s _ _ h (by simp; omega)]
  simp [joinSegments]

/-- A text its query set leaves alone has no `#`. -/
theorem ne_hash_of_query {q : List Char} (hq : q.all (keepsChar .specialQuery) = true) :
    ∀ c ∈ q, decide (c ≠ '#') = true := by
  intro c hc
  have hk := List.all_eq_true.1 hq c hc
  simp only [decide_eq_true_eq]
  rintro rfl
  exact absurd hk (by decide)

/-- **A query and a fragment read back.** Written as encoding leaves them,
after their `?` and `#`, they are read as they are. -/
theorem queryAndFragment_read {q f : Option String}
    (hq : ∀ x, q = some x → x.toList.all (keepsChar .specialQuery) = true)
    (hf : ∀ x, f = some x → x.toList.all (keepsChar .fragment) = true) :
    queryAndFragment true
        (((q.map ("?" ++ ·)).getD "").toList ++ ((f.map ("#" ++ ·)).getD "").toList) = (q, f) := by
  cases q with
  | none =>
    cases f with
    | none => rfl
    | some y =>
      have hy : encode .fragment y = y := encode_of_safe (hf y rfl)
      simp [queryAndFragment, hy]
  | some x =>
    have hx : encode .specialQuery x = x := encode_of_safe (hq x rfl)
    have hnone : ∀ c ∈ x.toList, (!decide (c = '#')) = true := by
      simpa using ne_hash_of_query (hq x rfl)
    cases f with
    | none =>
      simp [queryAndFragment, List.takeWhile_eq_self_iff.2 hnone, hx]
    | some y =>
      have hy : encode .fragment y = y := encode_of_safe (hf y rfl)
      have htake : (x.toList ++ '#' :: y.toList).takeWhile (fun c => !decide (c = '#')) = x.toList := by
        rw [List.takeWhile_append_of_pos hnone]
        simp
      simp [queryAndFragment, htake, hx, hy]

/-! ## The form parsing gives -/

/-- A character a part of a URL keeps as it is is printable: every set but
the controls' encodes the controls and the space. -/
theorem printable_of_keepsChar {set : EncodeSet} (hs : set ≠ .controls) {c : Char} (h : keepsChar set c = true) :
    0x20 < c.toNat := by
  have henc : ∀ n < 0x21, set.encodes n.toUInt8 = true := by
    cases set <;> first | exact absurd rfl hs | decide
  have hk : c.toNat < 0x80 ∧ set.encodes c.toNat.toUInt8 = false := by simpa [keepsChar] using h
  by_contra hle
  have := henc c.toNat (by omega)
  rw [hk.2] at this
  cases this

/-- A host written in plain characters that `Host.parse` reads as itself. -/
def PlainHost (h : Host) : Prop :=
  h.text ≠ "" ∧ h.text.toList.all plainHostChar = true ∧ Host.parse h.text = .ok h

/-- The schemes read back here are special, and none is `file`. -/
theorem special_of_mem {s : String} (hs : s ∈ ["http", "https", "ws", "wss", "ftp"]) :
    isSpecialScheme s = true ∧ s ≠ "file" := by
  simp only [List.mem_cons, List.not_mem_nil, or_false] at hs
  rcases hs with rfl | rfl | rfl | rfl | rfl <;> decide

/-- A URL in the form parsing gives, whose text is read back as it is: a
special scheme other than `file`, no user name or password, a host written
in plain characters that `Host.parse` reads as itself, a port that is no
default, a path of settled segments, and a query and a fragment as
encoding leaves them. -/
structure ReadsBack (u : Url) : Prop where
  scheme : u.scheme ∈ ["http", "https", "ws", "wss", "ftp"]
  authority : u.authority = true
  username : u.username = ""
  password : u.password = none
  host : ∃ h, u.host = some h ∧ PlainHost h
  port : ∀ p, u.port = some p → p ≤ 65535 ∧ some p ≠ defaultPort u.scheme
  path : ∃ ss, ss ≠ [] ∧ ss.all (settledSegment true) = true ∧ u.path.toList = joinSegments ss
  query : ∀ q, u.query = some q → q.toList.all (keepsChar .specialQuery) = true
  fragment : ∀ f, u.fragment = some f → f.toList.all (keepsChar .fragment) = true

/-- The text of a URL with a host and no user, part by part. -/
theorem text_toList {u : Url} {h : Host} (ha : u.authority = true) (hu : u.username = "") (hp : u.password = none)
    (hh : u.host = some h) :
    u.text.toList = u.scheme.toList ++ ':' :: '/' :: '/' :: (h.text.toList ++
      ((u.port.map (":" ++ toString ·)).getD "").toList ++ u.path.toList ++
      ((u.query.map ("?" ++ ·)).getD "").toList ++ ((u.fragment.map ("#" ++ ·)).getD "").toList) := by
  have hinfo : u.userinfoText = "" := by simp [userinfoText, hu, hp]
  rcases u with ⟨scheme, authority, username, password, host, port, path, query, fragment⟩
  dsimp only at ha hh hinfo ⊢
  subst ha hh
  cases port <;> cases query <;> cases fragment <;> simp [text, hinfo]

/-- With no `@` in the authority, no user name or password is read. -/
theorem lastAt_eq_none {cs : List Char} (h : '@' ∉ cs) : lastAt cs = none := by
  simp only [lastAt, Option.map_eq_none_iff, List.getLast?_eq_none_iff, List.filter_eq_nil_iff, decide_eq_true_eq]
  rintro ⟨c, i⟩ hm rfl
  exact h (List.fst_mem_of_mem_zipIdx hm)

/-- An authority with no `@` before the path has no user name or password. -/
theorem readUserinfo_none {auth rest : List Char} (ha : ∀ c ∈ auth, endsAuthority true c = false ∧ c ≠ '@')
    (hr : rest.head? = some '/') : readUserinfo true (auth ++ rest) = .ok ("", none, auth ++ rest) := by
  obtain ⟨r, rfl⟩ : ∃ r, rest = '/' :: r := by
    cases rest with
    | nil => cases hr
    | cons c r => exact ⟨r, by simp_all⟩
  have htake : (auth ++ '/' :: r).takeWhile (!endsAuthority true ·) = auth := by
    rw [List.takeWhile_append_of_pos fun c hc => by simp [(ha c hc).1]]
    simp [endsAuthority]
  have hnone : lastAt auth = none := lastAt_eq_none fun hm => (ha '@' hm).2 rfl
  unfold readUserinfo
  simp only [htake, hnone]

/-- A plain character ends no authority and is no `@`. -/
theorem plainHostChar_authority {c : Char} (h : plainHostChar c = true) : endsAuthority true c = false ∧ c ≠ '@' := by
  obtain ⟨-, -, h1, h2, h3, h4, h5, -, -⟩ := plainHostChar_iff.1 h
  simp [endsAuthority, h1, h2, h3, h4, h5]

/-- A digit ends no authority and is no `@`. -/
theorem digit_authority {c : Char} (hd : c.isDigit = true) : endsAuthority true c = false ∧ c ≠ '@' := by
  have hne : ∀ d : Char, d.isDigit = false → c ≠ d := fun d hd' he => by
    subst he
    rw [hd] at hd'
    cases hd'
  simp [endsAuthority, hne '/' rfl, hne '?' rfl, hne '#' rfl, hne '\\' rfl, hne '@' rfl]

/-- **The authority and what follows it read back.** -/
theorem afterDoubleSlash_read {u : Url} (hr : ReadsBack u) {h : Host} (hh : u.host = some h) :
    afterDoubleSlash u.scheme (h.text.toList ++ ((u.port.map (":" ++ toString ·)).getD "").toList ++ u.path.toList ++
      ((u.query.map ("?" ++ ·)).getD "").toList ++ ((u.fragment.map ("#" ++ ·)).getD "").toList) = .ok u := by
  obtain ⟨scheme, authority, username, password, host, port, path, query, fragment⟩ := u
  obtain ⟨hs, ha, hu, hpw, ⟨h', hh', hne, hplain, hparse⟩, hport, ⟨ss, hss, hsettled, hpath⟩, hq, hf⟩ := hr
  dsimp only at hs ha hu hpw hh' hport hpath hq hf hh ⊢
  subst ha hu hpw hh
  cases hh'
  have hspecial := (special_of_mem hs).1
  -- the host is read up to the port or the path, and `Host.parse` reads it back
  have hdom : h ≠ .domain "" := by
    rintro rfl
    exact hne rfl
  have hHne : h.text.toList.isEmpty = false := by simpa using hne
  have hauth : ∀ c ∈ h.text.toList, endsAuthority true c = false ∧ c ≠ '@' :=
    fun c hc => plainHostChar_authority (List.all_eq_true.1 hplain c hc)
  -- the path is read back, then the query and the fragment
  have hend : readSegment true .whole
      (((query.map ("?" ++ ·)).getD "").toList ++ ((fragment.map ("#" ++ ·)).getD "").toList) =
        ([], false, ((query.map ("?" ++ ·)).getD "").toList ++ ((fragment.map ("#" ++ ·)).getD "").toList) := by
    cases query <;> cases fragment <;> simp [readSegment]
  have hqf := queryAndFragment_read hq hf
  simp only [List.append_assoc]
  generalize ((query.map ("?" ++ ·)).getD "").toList ++ ((fragment.map ("#" ++ ·)).getD "").toList = QF at hend hqf ⊢
  have hps : parsePathStart true .whole [] (path.toList ++ QF) = (path.toList, QF) := by
    rw [hpath]
    exact parsePathStart_read hss hsettled hend
  obtain ⟨r, hr⟩ : ∃ r, path.toList = '/' :: r := by
    obtain ⟨s, ts, rfl⟩ := List.exists_cons_of_ne_nil hss
    exact ⟨s ++ joinSegments ts, by rw [hpath]; simp [joinSegments]⟩
  have hpathr : path = String.ofList ('/' :: r) := by rw [← hr, String.ofList_toList]
  rw [hr] at hps
  subst hpathr
  simp only [String.toList_ofList, List.cons_append] at hps ⊢
  have hhead : ('/' :: (r ++ QF)).head? = some '/' := rfl
  unfold afterDoubleSlash
  simp only [hspecial]
  cases port with
  | none =>
    have hht : hostText true false (h.text.toList ++ '/' :: (r ++ QF)) = (h.text.toList, '/' :: (r ++ QF)) := by
      rw [hostText_plain true hplain]
      simp [hostText]
    simp only [Option.map_none, Option.getD_none, String.toList_empty, List.nil_append]
    simp only [readUserinfo_none hauth hhead]
    simp [hht, hHne, hparse, hdom, hps, hqf, bind, Except.bind, pure, Except.pure]
  | some p =>
    obtain ⟨hle, hdef⟩ := hport p rfl
    have hdigits : ∀ c ∈ (toString p).toList, c.isDigit = true := by
      rw [Nat.toString_eq_ofList_toDigits, String.toList_ofList]
      exact fun c hc => Nat.isDigit_of_mem_toDigits (by decide) (by decide) hc
    -- the port's colon and digits end no authority and are no `@`
    have hauth' : ∀ c ∈ h.text.toList ++ ':' :: (toString p).toList, endsAuthority true c = false ∧ c ≠ '@' := by
      intro c hc
      rcases List.mem_append.1 hc with hc | hc
      · exact hauth c hc
      · rcases List.mem_cons.1 hc with rfl | hc
        · decide
        · exact digit_authority (hdigits c hc)
    have hht : hostText true false (h.text.toList ++ ':' :: ((toString p).toList ++ '/' :: (r ++ QF))) =
        (h.text.toList, ':' :: ((toString p).toList ++ '/' :: (r ++ QF))) := by
      rw [hostText_plain true hplain]
      simp [hostText]
    have hread : readPort scheme ((toString p).toList ++ '/' :: (r ++ QF)) = .ok (some p, '/' :: (r ++ QF)) :=
      readPort_toString hle hdef rfl
    have huser : readUserinfo true (h.text.toList ++ ':' :: ((toString p).toList ++ '/' :: (r ++ QF))) =
        .ok ("", none, h.text.toList ++ ':' :: ((toString p).toList ++ '/' :: (r ++ QF))) := by
      simpa using readUserinfo_none hauth' (show ('/' :: (r ++ QF)).head? = some '/' from rfl)
    have hcolon : ":".toList = [':'] := rfl
    simp only [Option.map_some, Option.getD_some, String.toList_append, hcolon, List.cons_append,
      List.nil_append]
    simp only [huser]
    -- the digits are written as `Nat.toDigits` once simp has seen them
    simp only [Nat.toString_eq_ofList_toDigits, String.toList_ofList] at hht hread
    simp [hht, hHne, hparse, hdom, hread, hps, hqf, bind, Except.bind, pure, Except.pure]

/-! ## The whole text -/

theorem printable_of_isDigit {c : Char} (hd : c.isDigit = true) : 0x20 < c.toNat := by
  simp only [Char.isDigit, Bool.and_eq_true, decide_eq_true_eq] at hd
  have h2 : ('0'.val).toNat ≤ c.val.toNat := UInt32.le_iff_toNat_le.1 hd.1
  have h0 : ('0'.val).toNat = 48 := rfl
  show 32 < c.val.toNat
  omega

theorem printable_of_joinSegments {ss : List (List Char)} (h : ss.all (settledSegment true) = true) :
    ∀ c ∈ joinSegments ss, 0x20 < c.toNat := by
  intro c hc
  simp only [joinSegments, List.mem_flatMap, List.mem_cons] at hc
  obtain ⟨s, hs, rfl | hcs⟩ := hc
  · decide
  · have hseg := (settledSegment_iff.1 (List.all_eq_true.1 h s hs)).1
    exact printable_of_keepsChar (by decide) (settledChar_iff.1 (List.all_eq_true.1 hseg c hcs)).1

/-- An optional part is printable when what it writes is. -/
theorem printable_of_option {α : Type} {o : Option α} {g : α → String}
    (h : ∀ x, o = some x → ∀ c ∈ (g x).toList, 0x20 < c.toNat) :
    ∀ c ∈ ((o.map g).getD "").toList, 0x20 < c.toNat := by
  cases o with
  | none => simp
  | some x => exact h x rfl

/-- A part after its mark is printable when the mark and the part are. -/
theorem printable_append {mark x : String} (hmark : ∀ c ∈ mark.toList, 0x20 < c.toNat)
    (hx : ∀ c ∈ x.toList, 0x20 < c.toNat) : ∀ c ∈ (mark ++ x).toList, 0x20 < c.toNat := by
  intro c hc
  rw [String.toList_append, List.mem_append] at hc
  rcases hc with hc | hc
  · exact hmark c hc
  · exact hx c hc

/-- The text of a URL that reads back has no control character and no space. -/
theorem printable_text {u : Url} (hr : ReadsBack u) : ∀ c ∈ u.text.toList, 0x20 < c.toNat := by
  obtain ⟨h, hh, -, hplain, -⟩ := hr.host
  obtain ⟨ss, -, hsettled, hpath⟩ := hr.path
  have hkept : ∀ {set : EncodeSet} {x : String}, set ≠ .controls → x.toList.all (keepsChar set) = true →
      ∀ c ∈ x.toList, 0x20 < c.toNat := fun hs hx c hc => printable_of_keepsChar hs (List.all_eq_true.1 hx c hc)
  rw [text_toList hr.authority hr.username hr.password hh, hpath]
  intro c hc
  simp only [List.mem_append, List.mem_cons] at hc
  rcases hc with hc | rfl | rfl | rfl | (((hc | hc) | hc) | hc) | hc
  · have hs := hr.scheme
    simp only [List.mem_cons, List.not_mem_nil, or_false] at hs
    rcases hs with hs | hs | hs | hs | hs <;> rw [hs] at hc <;> revert c <;> simp
  · decide
  · decide
  · decide
  · exact (plainHostChar_iff.1 (List.all_eq_true.1 hplain c hc)).1.1
  · refine printable_of_option (fun p _ => printable_append (by simp) fun d hd => printable_of_isDigit ?_) c hc
    rw [Nat.toString_eq_ofList_toDigits, String.toList_ofList] at hd
    exact Nat.isDigit_of_mem_toDigits (by decide) (by decide) hd
  · exact printable_of_joinSegments hsettled c hc
  · exact printable_of_option (fun q hq => printable_append (by simp) (hkept (by decide) (hr.query q hq))) c hc
  · exact printable_of_option (fun f hf => printable_append (by simp) (hkept (by decide) (hr.fragment f hf))) c hc

/-- **`Url.parse` reads back what `Url.text` writes**, for a URL in the form
parsing gives. -/
theorem parse_text {u : Url} (hr : ReadsBack u) : Url.parse u.text = .ok u := by
  obtain ⟨h, hh, hne, hplain, -⟩ := hr.host
  have hspecial := special_of_mem hr.scheme
  -- the host's first character is no slash, so the two slashes before it are all
  obtain ⟨c, cs, hc⟩ := List.exists_cons_of_ne_nil (by simpa using hne : h.text.toList ≠ [])
  have hfirst := plainHostChar_iff.1 (List.all_eq_true.1 hplain c (by simp [hc]))
  unfold Url.parse Url.parseWith
  rw [cleanInput_of_printable (printable_text hr), text_toList hr.authority hr.username hr.password hh]
  dsimp only
  rw [readScheme_special hr.scheme]
  simp only [hspecial.2, hspecial.1, if_false, if_true]
  rw [← afterDoubleSlash_read hr hh, hc]
  simp [hfirst.2.2.1, hfirst.2.2.2.1]

/-! ## What parsing leaves in the port, the query and the fragment -/

/-- What a set encodes it leaves alone when read again, when it keeps `%`
and the hex digits. -/
theorem keepsChar_of_mem_encode {set : EncodeSet} (hpct : keepsChar set '%' = true)
    (hhex : hexUpper.all (keepsChar set) = true) {t : String} {d : Char} (h : d ∈ (encode set t).toList) :
    keepsChar set d = true := by
  rw [encode] at h
  rcases mem_encodeBytes h with rfl | h | ⟨b, -, hlt, henc, rfl⟩
  · exact hpct
  · exact List.all_eq_true.1 hhex d h
  · have hb : b.toNat < 0x80 := hlt
    have hv : (Char.ofNat b.toNat).toNat = b.toNat := Text.Utf8.toNat_ofNat_of_lt (by omega)
    simp [keepsChar, hv, hb, henc]

/-- A query and a fragment as parsing reads them are as encoding leaves them. -/
theorem queryAndFragment_kept (rest : List Char) :
    (∀ x, (queryAndFragment true rest).1 = some x → x.toList.all (keepsChar .specialQuery) = true) ∧
      ∀ x, (queryAndFragment true rest).2 = some x → x.toList.all (keepsChar .fragment) = true := by
  have hq : ∀ t, (encode .specialQuery t).toList.all (keepsChar .specialQuery) = true :=
    fun t => List.all_eq_true.2 fun d hd => keepsChar_of_mem_encode (by decide) (by decide) hd
  have hf : ∀ t, (encode .fragment t).toList.all (keepsChar .fragment) = true :=
    fun t => List.all_eq_true.2 fun d hd => keepsChar_of_mem_encode (by decide) (by decide) hd
  unfold queryAndFragment
  -- each part is read after a `?` or a `#`, and encoded
  constructor
  · intro x hx
    split at hx
    next query rest' heq =>
      subst hx
      split at heq
      · simp only [if_true, Prod.mk.injEq, Option.some.injEq] at heq
        rw [← heq.1]
        exact hq _
      · cases heq
  · intro x hx
    split at hx
    next query rest' heq =>
      dsimp only at hx
      split at hx
      · rw [← Option.some.inj hx]
        exact hf _
      · cases hx

/-- A port that is read is no default, and fits in sixteen bits: the whole
numeral is one of the prefixes the reader checks. -/
theorem readPort_some {scheme : String} {input rest : List Char} {p : Nat}
    (h : readPort scheme input = .ok (some p, rest)) : p ≤ 65535 ∧ some p ≠ defaultPort scheme := by
  unfold readPort at h
  dsimp only at h
  split_ifs at h with hover hbad hd
  · simp at h
  · simp only [Except.ok.injEq, Prod.mk.injEq, Option.some.injEq] at h
    obtain ⟨rfl, -⟩ := h
    simp only [Bool.or_eq_true, not_or, decide_eq_true_eq, List.isEmpty_iff] at hd
    refine ⟨?_, hd.2⟩
    generalize List.takeWhile Char.isDigit input = D at hover hd ⊢
    rw [Bool.not_eq_true, List.any_eq_false] at hover
    -- the last prefix the reader checks is the whole numeral
    have hlen : 0 < D.length := List.length_pos_of_ne_nil hd.1
    obtain ⟨x, hx⟩ : ∃ x, D[D.length - 1]? = some x :=
      Option.isSome_iff_exists.1 (by simp only [List.getElem?_eq_getElem (by omega : D.length - 1 < D.length),
        Option.isSome_some])
    have hwhole := hover _ (List.mk_mem_zipIdx_iff_getElem?.2 hx)
    simp only [Nat.sub_add_cancel hlen, List.take_length, gt_iff_lt, decide_eq_true_eq, not_lt] at hwhole
    exact hwhole

/-- After `scheme://` of a special scheme, the port read is no default and
fits, and the query and the fragment are as encoding leaves them. -/
theorem afterDoubleSlash_parts {scheme : String} {input : List Char} {u : Url}
    (h : afterDoubleSlash scheme input = .ok u) (hs : isSpecialScheme scheme = true) :
    (∀ p, u.port = some p → p ≤ 65535 ∧ some p ≠ defaultPort scheme) ∧
      (∀ q, u.query = some q → q.toList.all (keepsChar .specialQuery) = true) ∧
      ∀ f, u.fragment = some f → f.toList.all (keepsChar .fragment) = true := by
  unfold afterDoubleSlash at h
  simp only [bind, Except.bind, pure, Except.pure, hs] at h
  -- every exit of the reading but the last is an error; the port is none or read
  repeat' split at h
  all_goals cases h
  all_goals refine ⟨fun p hp => ?_, (queryAndFragment_kept _).1, (queryAndFragment_kept _).2⟩
  all_goals first
    | cases hp
    | exact readPort_some (by rw [← hp]; assumption)

/-- **What parsing leaves in the port, the query and the fragment.** A URL
that `Url.parse` gives with a special scheme other than `file` has a port
that is no default and fits, and a query and a fragment as encoding leaves
them. -/
theorem parse_parts {raw : String} {u : Url} (h : Url.parse raw = .ok u)
    (hs : u.scheme ∈ ["http", "https", "ws", "wss", "ftp"]) :
    u.authority = true ∧ (∀ p, u.port = some p → p ≤ 65535 ∧ some p ≠ defaultPort u.scheme) ∧
      (∀ q, u.query = some q → q.toList.all (keepsChar .specialQuery) = true) ∧
      ∀ f, u.fragment = some f → f.toList.all (keepsChar .fragment) = true := by
  obtain ⟨hspecial, hfile⟩ := special_of_mem hs
  simp only [Url.parse, Url.parseWith] at h
  rcases hsch : readScheme (cleanInput raw) with _ | ⟨scheme, rest⟩
  · simp [hsch] at h
  · simp only [hsch] at h
    split at h
    · exact absurd (fileUrl_path h).1 hfile
    · split at h
      · next hsp =>
        obtain ⟨hsch, hauth, -⟩ := afterDoubleSlash_path h
        rw [hsch]
        exact ⟨hauth, afterDoubleSlash_parts h hsp⟩
      · -- a scheme that is not special gives a URL whose scheme is not special
        next hsp =>
        have hscheme : u.scheme = scheme := by
          repeat' split at h
          all_goals first | exact (afterDoubleSlash_path h).1 | (cases h; rfl)
        rw [hscheme] at hspecial
        exact absurd hspecial hsp

theorem rstrip_rstrip (p : List Char) : rstrip (rstrip p) = rstrip p := by
  simp [rstrip, List.dropWhile_idempotent]

theorem endsWith_api (p : String) : (p ++ "/api").endsWith "/api" = true := by
  rw [String.endsWith, String.Slice.endsWith_string_iff, String.copy_toSlice]
  exact ⟨p.toList, by simp⟩

end RoomConsole.Url

/-! ## Normalizing the text of an API root -/

namespace RoomConsole.Client

open RoomConsole.Url

/-- **The API root path is its own API root path.** A path ending in `/api`
gains only the slash, and dropping that slash again gives it back. -/
theorem apiRootPath_apiRootPath (p : String) : apiRootPath (apiRootPath p) = apiRootPath p := by
  have hx : rstrip (String.ofList (rstrip p.toList)).toList = rstrip p.toList := by
    rw [String.toList_ofList, rstrip_rstrip]
  unfold apiRootPath
  dsimp only
  split
  · next hapi =>
    rw [String.toList_append, show "/".toList = ['/'] from rfl, rstrip_concat_slash, hx, if_pos hapi]
  · have hapi : rstrip ((String.ofList (rstrip p.toList)).toList ++ "/api/".toList) =
        (String.ofList (rstrip p.toList)).toList ++ "/api".toList := by
      rw [show "/api/".toList = "/api".toList ++ ['/'] from rfl, ← List.append_assoc, rstrip_concat_slash,
        rstrip_of_getLast? (by rw [show "/api".toList = ['/', 'a', 'p', 'i'] from rfl]; simp)]
    rw [String.toList_append, hapi, ← String.toList_append, String.ofList_toList, if_pos (endsWith_api _),
      String.append_assoc]
    rfl

/-- The API root path of a settled path is settled, with at least one
segment. -/
theorem apiRootPath_settled {p : String} (hx : SettledPath true (rstrip p.toList)) :
    ∃ ss, ss ≠ [] ∧ ss.all (settledSegment true) = true ∧ (apiRootPath p).toList = joinSegments ss := by
  obtain ⟨segs, hs, hx⟩ := hx
  unfold apiRootPath
  dsimp only
  split
  · refine ⟨segs ++ [[]], by simp, by simp [hs, settledSegment_nil], ?_⟩
    rw [joinSegments_concat, String.toList_append, String.toList_ofList, hx]
    rfl
  · refine ⟨segs ++ ["api".toList, []], by simp, ?_, ?_⟩
    · simp only [List.all_append, hs, List.all_cons, List.all_nil, settledSegment_api, settledSegment_nil,
        Bool.and_self]
    · rw [show segs ++ ["api".toList, []] = segs ++ ["api".toList] ++ [[]] by simp, joinSegments_concat,
        joinSegments_concat, String.toList_append, String.toList_ofList, hx]
      simp

/-- **Normalizing is idempotent on the text it gives.** A URL with a special
scheme other than `file`, no user name or password, and a plain host that
`Host.parse` reads back normalizes to an API root whose text normalizes to
that root again. -/
theorem normalizeBase_text {raw : String} {u : Url} (h : Url.parse raw = .ok u)
    (hs : u.scheme ∈ ["http", "https", "ws", "wss", "ftp"]) (hu : u.username = "") (hp : u.password = none)
    (hh : ∃ x, u.host = some x ∧ PlainHost x) :
    ∃ b, normalizeBase raw = .ok b ∧ normalizeBase b.text = .ok b := by
  obtain ⟨hauth, hport, hq, hf⟩ := parse_parts h hs
  have hcb : u.cannotBeABase = false := by simp [Url.cannotBeABase, hauth]
  have hspecial : u.special = true := (special_of_mem hs).1
  have hsettled := parse_settled h hcb
  rw [hspecial] at hsettled
  -- the root reads back, with the path normalizing gave it
  have hroot : ReadsBack { u with path := apiRootPath u.path } :=
    ⟨hs, hauth, hu, hp, hh, hport, apiRootPath_settled hsettled.rstrip, hq, hf⟩
  refine ⟨_, normalizeBase_eq h hcb, ?_⟩
  rw [normalizeBase_eq (parse_text hroot) (by simp [Url.cannotBeABase, hauth]), apiRootPath_apiRootPath]

/-- The root `http://mock/api?x=y` as it is parsed. -/
def mockQueryRoot : Url := { scheme := "http", host := some (.domain "mock"), path := "/api", query := some "x=y" }

/-- The root of a server named `mock` with a query normalizes to a root whose
text normalizes to it again. -/
theorem mockQueryRoot_normalizes_back :
    ∃ b, normalizeBase "http://mock/api?x=y" = .ok b ∧ normalizeBase b.text = .ok b :=
  normalizeBase_text (u := mockQueryRoot) (eq_ok_of_toOption (by decide +kernel)) (by simp [mockQueryRoot]) rfl rfl
    ⟨.domain "mock", rfl, by decide, by decide, eq_ok_of_toOption (by decide +kernel)⟩

end RoomConsole.Client
