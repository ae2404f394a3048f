import RoomConsole.Proofs.Url.Path

/-!
# Settled paths

A path as parsing leaves it is a list of segments, each written after a slash
(`joinSegments`). Each segment holds only characters that the path set leaves
alone and that end no segment, and none spells `.` or `..`
(`settledSegment`). Such a path is *settled* (`SettledPath`).

* Every URL that `Url.parse` gives and that can be a base has a settled path
  (`parse_settled`). The invariant is carried through the reading loop one
  step at a time (`stepPath_settled`).
* Dropping trailing slashes keeps a path settled (`SettledPath.rstrip`).
* `setPath` reads a settled path followed by a slash as itself
  (`setPath_settled`).

On characters: `encode` writes a character either as itself or as `%` and two
upper-case hex digits (`mem_encodeChar`). A character at or above `0x80` is
always escaped, since each of its UTF-8 bytes is at or above `0x80`
(`utf8EncodeChar_high`).
-/

namespace RoomConsole.Url

open RoomConsole.Text

/-! ## What encoding writes -/

/-- The UTF-8 bytes of a character outside ASCII are all outside ASCII. -/
theorem utf8EncodeChar_high {c : Char} (h : 0x80 ≤ c.toNat) : ∀ b ∈ String.utf8EncodeChar c, 0x80 ≤ b := by
  -- every byte but the first is a continuation byte, and the first has its top bit set
  have hor : ∀ x y : UInt8, 0x80 ≤ y → 0x80 ≤ x ||| y := fun x y hy => by
    rw [UInt8.le_iff_toNat_le] at hy ⊢
    rw [UInt8.toNat_or]
    exact Nat.le_trans hy Nat.right_le_or
  have h1 : c.utf8Size ≠ 1 := by
    rw [Ne, Char.utf8Size_eq_one_iff, UInt32.le_iff_toNat_le]
    have hv : c.toNat = c.val.toNat := rfl
    have h127 : (127 : UInt32).toNat = 127 := rfl
    omega
  have hpos := Char.utf8Size_pos c
  have hle := Char.utf8Size_le_four c
  rcases (by omega : c.utf8Size = 2 ∨ c.utf8Size = 3 ∨ c.utf8Size = 4) with h2 | h3 | h4
  · rw [String.utf8EncodeChar_eq_cons_cons h2]
    simp only [List.mem_cons, List.not_mem_nil, or_false]
    rintro b (rfl | rfl) <;> exact hor _ _ (by decide)
  · rw [String.utf8EncodeChar_eq_cons_cons_cons h3]
    simp only [List.mem_cons, List.not_mem_nil, or_false]
    rintro b (rfl | rfl | rfl) <;> exact hor _ _ (by decide)
  · rw [String.utf8EncodeChar_eq_cons_cons_cons_cons h4]
    simp only [List.mem_cons, List.not_mem_nil, or_false]
    rintro b (rfl | rfl | rfl | rfl) <;> exact hor _ _ (by decide)

theorem mem_escapeByte {b : UInt8} {d : Char} (h : d ∈ (escapeByte b).toList) : d = '%' ∨ d ∈ hexUpper := by
  have hdigit : ∀ n < 16, hexUpper.getD n '0' ∈ hexUpper := by decide
  have hhi : b.toNat / 16 < 16 := by
    have := b.toNat_lt
    omega
  rw [escapeByte, String.toList_ofList] at h
  simp only [List.mem_cons, List.not_mem_nil, or_false] at h
  rcases h with rfl | rfl | rfl
  · exact .inl rfl
  · exact .inr (hdigit _ hhi)
  · exact .inr (hdigit _ (Nat.mod_lt _ (by decide)))

/-- Every character `encodeBytes` writes is `%`, a hex digit, or a byte its
set leaves alone. -/
theorem mem_encodeBytes {set : EncodeSet} {d : Char} :
    ∀ {bs : List UInt8}, d ∈ (encodeBytes set bs).toList →
      d = '%' ∨ d ∈ hexUpper ∨ ∃ b ∈ bs, b < 0x80 ∧ set.encodes b = false ∧ d = Char.ofNat b.toNat
  | [], h => by simp [encodeBytes, String.join] at h
  | b :: bs, h => by
    rw [encodeBytes_cons, String.toList_append, List.mem_append] at h
    rcases h with h | h
    · split at h
      · exact (mem_escapeByte h).elim .inl (.inr ∘ .inl)
      · next hb =>
        simp only [Bool.or_eq_true, decide_eq_true_eq, not_or, UInt8.not_le] at hb
        refine .inr (.inr ⟨b, List.mem_cons_self .., hb.1, by simpa using hb.2, ?_⟩)
        simpa using h
    · rcases mem_encodeBytes h with h | h | ⟨b', hb', hb⟩
      · exact .inl h
      · exact .inr (.inl h)
      · exact .inr (.inr ⟨b', List.mem_cons_of_mem _ hb', hb⟩)

/-- **A character encodes to itself, `%` and hex digits.** -/
theorem mem_encodeChar {set : EncodeSet} {c d : Char} (h : d ∈ encodeChar set c) :
    d = c ∨ d = '%' ∨ d ∈ hexUpper := by
  rw [encodeChar, Utf8.encodeChar, Utf8.encode_eq] at h
  rcases mem_encodeBytes h with h | h | ⟨b, hb, hlt, -, rfl⟩
  · exact .inr (.inl h)
  · exact .inr (.inr h)
  · left
    -- a byte below `0x80` is the whole encoding of an ASCII character
    simp only [String.toList_singleton, List.flatMap_cons, List.flatMap_nil, List.append_nil] at hb
    by_cases hc : c.toNat < 0x80
    · rw [Utf8.utf8EncodeChar_of_lt hc, List.mem_singleton] at hb
      subst hb
      have : c.toNat.toUInt8.toNat = c.toNat := by
        simp [Nat.mod_eq_of_lt (show c.toNat < 256 by omega)]
      rw [this, Char.ofNat_toNat]
    · exact absurd (utf8EncodeChar_high (by omega) b hb) (UInt8.not_le.2 hlt)

theorem encodeChar_ne_nil (set : EncodeSet) (c : Char) : encodeChar set c ≠ [] := by
  rw [encodeChar, Utf8.encodeChar, Utf8.encode_eq]
  simp only [String.toList_singleton, List.flatMap_cons, List.flatMap_nil, List.append_nil]
  obtain ⟨b, bs, hb⟩ := List.exists_cons_of_ne_nil (String.utf8EncodeChar_ne_nil (c := c))
  rw [hb, encodeBytes_cons, String.toList_append]
  split <;> simp [escapeByte]

/-- What the path set writes, the path set leaves alone when read again. -/
theorem keepsChar_of_mem_encodeChar {c d : Char} (h : d ∈ encodeChar .path c) : keepsChar .path d = true := by
  rw [encodeChar, Utf8.encodeChar, Utf8.encode_eq] at h
  rcases mem_encodeBytes h with rfl | h | ⟨b, -, hlt, henc, rfl⟩
  · decide
  · exact List.all_eq_true.1 (by decide : hexUpper.all (keepsChar .path) = true) d h
  · have hb : b.toNat < 0x80 := hlt
    have hv : (Char.ofNat b.toNat).toNat = b.toNat := Utf8.toNat_ofNat_of_lt (by omega)
    simp [keepsChar, hv, hb, henc]

/-- The path set encodes tabs and line breaks. -/
theorem isTabOrNewline_of_keepsChar {c : Char} (h : keepsChar .path c = true) : isTabOrNewline c = false := by
  refine Bool.eq_false_iff.2 fun hc => ?_
  simp only [isTabOrNewline, Bool.or_eq_true, decide_eq_true_eq] at hc
  rcases hc with (rfl | rfl) | rfl <;> exact absurd h (by decide)

/-! ## Segments -/

/-- The path of a list of segments: each written after a slash. -/
def joinSegments (segs : List (List Char)) : List Char := segs.flatMap ('/' :: ·)

/-- A character a parsed path keeps as it is: the path set leaves it alone,
and it ends no segment. -/
def settledChar (special : Bool) (c : Char) : Bool :=
  keepsChar .path c && c != '/' && !(special && c == '\\')

/-- A segment as parsing leaves it: settled characters, and no dot segment. -/
def settledSegment (special : Bool) (seg : List Char) : Bool :=
  seg.all (settledChar special) && !isDoubleDot seg && !isSingleDot seg

theorem settledChar_iff {special : Bool} {c : Char} :
    settledChar special c = true ↔ keepsChar .path c = true ∧ c ≠ '/' ∧ ¬(special = true ∧ c = '\\') := by
  cases special <;> simp [settledChar, and_assoc]

theorem settledSegment_iff {special : Bool} {seg : List Char} :
    settledSegment special seg = true ↔
      seg.all (settledChar special) = true ∧ isDoubleDot seg = false ∧ isSingleDot seg = false := by
  simp only [settledSegment, Bool.and_eq_true, Bool.not_eq_true', and_assoc]

/-- A path as parsing leaves it. -/
def SettledPath (special : Bool) (p : List Char) : Prop :=
  ∃ segs : List (List Char), segs.all (settledSegment special) = true ∧ p = joinSegments segs

@[simp] theorem joinSegments_nil : joinSegments [] = [] := rfl

theorem joinSegments_concat (segs : List (List Char)) (seg : List Char) :
    joinSegments (segs ++ [seg]) = joinSegments segs ++ '/' :: seg := by
  simp [joinSegments]

/-- Followed by a slash, a path of segments is a slash and then each segment
with its own slash. -/
theorem joinSegments_slash (segs : List (List Char)) :
    joinSegments segs ++ ['/'] = '/' :: segs.flatMap (· ++ ['/']) := by
  induction segs with
  | nil => rfl
  | cons s segs ih => simp [joinSegments, ← ih]

theorem settledSegment_nil (special : Bool) : settledSegment special [] = true := by
  cases special <;> decide

theorem settledSegment_api (special : Bool) : settledSegment special "api".toList = true := by
  cases special <;> decide

theorem not_slash_of_settled {special : Bool} {seg : List Char} (h : seg.all (settledChar special) = true) :
    '/' ∉ seg := fun hm =>
  (settledChar_iff.1 (List.all_eq_true.1 h '/' hm)).2.1 rfl

/-- A settled path has no tab or line break. -/
theorem isTabOrNewline_of_mem_joinSegments {special : Bool} {segs : List (List Char)}
    (h : segs.all (settledSegment special) = true) {d : Char} (hd : d ∈ joinSegments segs) :
    isTabOrNewline d = false := by
  simp only [joinSegments, List.mem_flatMap, List.mem_cons] at hd
  obtain ⟨s, hs, rfl | hds⟩ := hd
  · rfl
  · have hseg := (settledSegment_iff.1 (List.all_eq_true.1 h s hs)).1
    exact isTabOrNewline_of_keepsChar (settledChar_iff.1 (List.all_eq_true.1 hseg d hds)).1

theorem SettledPath.nil (special : Bool) : SettledPath special [] := ⟨[], rfl, rfl⟩

/-- A settled path that ends in a slash is settled: its last segment is empty. -/
theorem SettledPath.of_slash {special : Bool} {segs : List (List Char)}
    (h : segs.all (settledSegment special) = true) : SettledPath special (joinSegments segs ++ ['/']) :=
  ⟨segs ++ [[]], by simp [h, settledSegment_nil], by rw [joinSegments_concat]⟩

/-- A settled path is empty or starts with a slash. -/
theorem SettledPath.head {special : Bool} {p : List Char} (h : SettledPath special p) :
    p = [] ∨ p.head? = some '/' := by
  obtain ⟨segs, -, rfl⟩ := h
  rcases segs with _ | ⟨s, segs⟩
  · exact .inl rfl
  · exact .inr (by simp [joinSegments])

/-! ## Parsing settles a path -/

/-- The segment a whole URL's path is read into holds settled characters only. -/
theorem readSegment_whole_settled (special : Bool) (input : List Char) :
    (readSegment special .whole input).1.all (settledChar special) = true := by
  induction input with
  | nil => rfl
  | cons c rest ih =>
    rw [readSegment]
    split
    · rfl
    · split
      · rfl
      · split
        · rfl
        · next h1 h2 _ =>
          rcases hr : readSegment special .whole rest with ⟨seg, ended, rest'⟩
          rw [hr] at ih
          simp only [List.all_append, Bool.and_eq_true]
          refine ⟨List.all_eq_true.2 fun d hd => ?_, ih⟩
          have hk := keepsChar_of_mem_encodeChar hd
          rcases mem_encodeChar hd with rfl | rfl | hhex
          · -- the character is kept, so it is neither `/` nor, in a special URL, `\`
            exact settledChar_iff.2 ⟨hk, fun h => h1 (by simp [h]), fun hs => h2 (by simp [hs.1, hs.2])⟩
          · cases special <;> decide
          · exact List.all_eq_true.1 (by cases special <;> decide : hexUpper.all (settledChar special) = true) d hhex

/-- `..` after a settled path that ends in a slash takes its last segment off. -/
theorem dropDotDot_joinSegments {special : Bool} {segs : List (List Char)}
    (h : segs.all (settledSegment special) = true) :
    ∃ segs', segs'.all (settledSegment special) = true ∧
      dropDotDot (joinSegments segs ++ ['/']) = joinSegments segs' ++ ['/'] := by
  rcases segs.eq_nil_or_concat with rfl | ⟨init, s, rfl⟩
  · exact ⟨[], rfl, by decide⟩
  · rw [List.concat_eq_append, List.all_append, List.all_cons, List.all_nil, Bool.and_true,
      Bool.and_eq_true] at h
    have hslash : '/' ∉ s := not_slash_of_settled (settledSegment_iff.1 h.2).1
    refine ⟨init, h.1, ?_⟩
    rw [List.concat_eq_append, joinSegments_concat, dropDotDot_of_last_slash hslash]

/-- **One step keeps a path settled.** Within the loop the path ends in a
slash; a step that read one leaves it ending in a slash again, and the last
step leaves a settled path. -/
theorem stepPath_settled {special : Bool} {segs : List (List Char)} {seg : List Char}
    (h : segs.all (settledSegment special) = true) (hseg : seg.all (settledChar special) = true) :
    (∃ segs', segs'.all (settledSegment special) = true ∧
      stepPath (joinSegments segs ++ ['/']) seg true = joinSegments segs' ++ ['/']) ∧
      SettledPath special (stepPath (joinSegments segs ++ ['/']) seg false) := by
  have hlast : (joinSegments segs ++ ['/']).getLast? = some '/' := List.getLast?_concat
  unfold stepPath
  split
  · -- `..` takes the last segment off
    obtain ⟨segs', h', hdrop⟩ := dropDotDot_joinSegments h
    have hdrop_last : (joinSegments segs' ++ ['/']).getLast? = some '/' := List.getLast?_concat
    simp only [hdrop, hdrop_last, ne_eq, not_true_eq_false, decide_false, Bool.and_false,
      Bool.false_eq_true, if_false]
    exact ⟨⟨segs', h', rfl⟩, SettledPath.of_slash h'⟩
  · next hdd =>
    split
    · -- `.` leaves the path as it is
      simp only [hlast, ne_eq, not_true_eq_false, if_false]
      exact ⟨⟨segs, h, rfl⟩, SettledPath.of_slash h⟩
    · next hsd =>
      have hplain : (segs ++ [seg]).all (settledSegment special) = true := by
        simp [h, settledSegment, hseg, hdd, hsd]
      refine ⟨⟨segs ++ [seg], hplain, ?_⟩, ⟨segs ++ [seg], hplain, ?_⟩⟩
      · simp [joinSegments_concat]
      · simp [joinSegments_concat]

/-- Reading a whole URL's path onto a settled path that ends in a slash
leaves a settled path; induction on the fuel, `stepPath_settled` at each step. -/
theorem parsePath_settled (special : Bool) :
    ∀ (n : Nat) (segs : List (List Char)) (input : List Char), segs.all (settledSegment special) = true →
      SettledPath special (parsePath special .whole n (joinSegments segs ++ ['/']) input).1
  | 0, _, _, h => SettledPath.of_slash h
  | n + 1, segs, input, h => by
    rcases hr : readSegment special .whole input with ⟨seg, ended, rest⟩
    have hseg : seg.all (settledChar special) = true := by
      simpa [hr] using readSegment_whole_settled special input
    obtain ⟨⟨segs', h', hstep⟩, hdone⟩ := stepPath_settled h hseg
    rw [parsePath_succ hr]
    cases ended
    · exact hdone
    · rw [if_pos rfl, hstep]
      exact parsePath_settled special n segs' rest h'

/-- The path of a whole URL, read from its start, is settled. -/
theorem parsePathStart_whole_settled (special : Bool) (input : List Char) :
    SettledPath special (parsePathStart special .whole [] input).1 := by
  have hroot : ([] : List Char) ++ ['/'] = joinSegments [] ++ ['/'] := rfl
  unfold parsePathStart
  cases special
  · rcases input with _ | ⟨c, r⟩
    · show SettledPath false (parsePath false .whole (0 + 1) [] []).1
      rw [parsePath_succ (readSegment_nil false .whole)]
      exact SettledPath.nil false
    · dsimp only
      rw [if_neg (by decide)]
      split
      · exact SettledPath.nil false
      · split
        · rw [hroot]
          exact parsePath_settled false _ [] _ rfl
        · next hc =>
          obtain rfl : c = '/' := by simpa using hc
          rw [parsePath_root_slash false (by decide)]
          exact parsePath_settled false _ [] r rfl
  · dsimp only
    rw [if_pos rfl, if_pos (by simp), hroot]
    split
    · split <;> exact parsePath_settled true _ [] _ rfl
    · exact parsePath_settled true _ [] _ rfl

/-- An opaque path starts with a slash only when its text does. -/
theorem head?_parseOpaquePath {input : List Char} (h : input.head? ≠ some '/') :
    (parseOpaquePath .whole input).1.head? ≠ some '/' := by
  rcases input with _ | ⟨c, r⟩
  · simp [parseOpaquePath]
  · have hc : c ≠ '/' := by simpa using h
    obtain ⟨d, ds, hd⟩ := List.exists_cons_of_ne_nil (encodeChar_ne_nil .controls c)
    have hd' : d ≠ '/' := by
      rcases mem_encodeChar (hd ▸ List.mem_cons_self ..) with h | h | h
      · exact h ▸ hc
      · rw [h]
        decide
      · exact fun hs => absurd (List.all_eq_true.1 (by decide : hexUpper.all (· != '/') = true) d h)
          (by simp [hs])
    rw [parseOpaquePath]
    split
    · simp
    · simp [hd, hd']

/-- **Parsing settles a path.** Every URL that `Url.parse` gives and that can
be a base has a settled path. -/
theorem parse_settled {raw : String} {u : Url} (h : Url.parse raw = .ok u) (hu : u.cannotBeABase = false) :
    SettledPath u.special u.path.toList := by
  simp only [Url.parse, Url.parseWith] at h
  rcases hsch : readScheme (cleanInput raw) with _ | ⟨scheme, rest⟩
  · simp [hsch] at h
  · simp only [hsch] at h
    split at h
    · obtain ⟨hs, rest', hp⟩ := fileUrl_path h
      rw [hp, String.toList_ofList, Url.special, hs]
      exact parsePathStart_whole_settled true rest'
    · split at h
      · obtain ⟨hs, -, rest', hp⟩ := afterDoubleSlash_path h
        rw [hp, String.toList_ofList, Url.special, hs]
        exact parsePathStart_whole_settled _ rest'
      · next hsp =>
        split at h
        · obtain ⟨hs, -, rest', hp⟩ := afterDoubleSlash_path h
          rw [hp, String.toList_ofList, Url.special, hs]
          exact parsePathStart_whole_settled _ rest'
        · split at h
          · cases h
            rw [Bool.not_eq_true] at hsp
            show SettledPath (isSpecialScheme scheme) _
            rw [hsp, String.toList_ofList]
            exact parsePath_settled false _ [] _ rfl
          · -- an opaque path cannot be a base
            next hslash =>
            cases h
            simp only [Url.cannotBeABase, Bool.not_false, Bool.true_and, Bool.not_eq_false',
              String.startsWith_string_iff, String.toList_ofList] at hu
            obtain ⟨t, ht⟩ := hu
            exact absurd (by rw [← ht]; rfl) (head?_parseOpaquePath hslash)

/-! ## Trailing slashes -/

/-- A path with its trailing slashes dropped. -/
def rstrip (p : List Char) : List Char := (p.reverse.dropWhile (· = '/')).reverse

theorem rstrip_concat_slash (p : List Char) : rstrip (p ++ ['/']) = rstrip p := by
  simp [rstrip]

theorem rstrip_of_getLast? {p : List Char} (h : p.getLast? ≠ some '/') : rstrip p = p := by
  rcases p.eq_nil_or_concat with rfl | ⟨q, c, rfl⟩
  · rfl
  · rw [List.concat_eq_append] at h ⊢
    have hc : c ≠ '/' := by simpa using h
    simp [rstrip, hc]

/-- Dropping trailing slashes from a path of segments drops its empty last
segments; induction on the segments from the end. -/
theorem rstrip_joinSegments_reverse {special : Bool} :
    ∀ (rsegs : List (List Char)), rsegs.all (settledSegment special) = true →
      SettledPath special (rstrip (joinSegments rsegs.reverse))
  | [], _ => SettledPath.nil special
  | s :: rsegs, h => by
    rw [List.all_cons, Bool.and_eq_true] at h
    rw [List.reverse_cons, joinSegments_concat]
    rcases s.eq_nil_or_concat with rfl | ⟨t, c, rfl⟩
    · rw [rstrip_concat_slash]
      exact rstrip_joinSegments_reverse rsegs h.2
    · rw [List.concat_eq_append] at h ⊢
      have hc : c ≠ '/' := fun hc => not_slash_of_settled (settledSegment_iff.1 h.1).1 (by simp [hc])
      have hlast : (joinSegments rsegs.reverse ++ '/' :: (t ++ [c])).getLast? = some c := by
        rw [← List.cons_append, ← List.append_assoc, List.getLast?_concat]
      rw [rstrip_of_getLast? (by rw [hlast]; simpa using hc)]
      exact ⟨rsegs.reverse ++ [t ++ [c]], by simp [List.all_reverse, h.1, h.2], by rw [joinSegments_concat]⟩

/-- **Dropping trailing slashes keeps a path settled**: they are the empty
segments at its end. -/
theorem SettledPath.rstrip {special : Bool} {p : List Char} (h : SettledPath special p) :
    SettledPath special (Url.rstrip p) := by
  obtain ⟨segs, hs, rfl⟩ := h
  have := rstrip_joinSegments_reverse segs.reverse (by rwa [List.all_reverse])
  rwa [List.reverse_reverse] at this

/-! ## Setting a settled path -/

/-- A settled segment is read by a setter as it is, up to its slash. -/
theorem readSegment_setter_settled {special : Bool} {seg : List Char}
    (h : seg.all (settledChar special) = true) (rest : List Char) :
    readSegment special .setter (seg ++ '/' :: rest) = (seg, true, rest) := by
  induction seg with
  | nil => simp [readSegment]
  | cons c seg ih =>
    rw [List.all_cons, Bool.and_eq_true] at h
    have hc := settledChar_iff.1 h.1
    have hk : c.toNat < 0x80 ∧ EncodeSet.path.encodes c.toNat.toUInt8 = false := by
      simpa [keepsChar] using hc.1
    rw [List.cons_append, readSegment, ih h.2]
    simp [hc.2.1, encodeChar_of_safe hk.1 hk.2]
    exact fun hb => Bool.eq_false_iff.2 fun hs => hc.2.2 ⟨hs, hb⟩

/-- A setter reads settled segments, each followed by a slash, as they are;
induction on the segments. -/
theorem parsePath_setter_settled (special : Bool) :
    ∀ (segs : List (List Char)) (n : Nat) (path : List Char), segs.all (settledSegment special) = true →
      (segs.flatMap (· ++ ['/'])).length < n →
      parsePath special .setter n path (segs.flatMap (· ++ ['/'])) = (path ++ segs.flatMap (· ++ ['/']), [])
  | [], n, path, _, hn => by
    obtain ⟨m, rfl⟩ : ∃ m, n = m + 1 := ⟨n - 1, by simp at hn; omega⟩
    rw [List.flatMap_nil, parsePath_succ (readSegment_nil special .setter)]
    simp [stepPath, isDoubleDot, isSingleDot]
  | s :: segs, n, path, h, hn => by
    simp only [List.flatMap_cons, List.length_append, List.length_singleton] at hn
    obtain ⟨m, rfl⟩ : ∃ m, n = m + 1 := ⟨n - 1, by omega⟩
    rw [List.all_cons, Bool.and_eq_true] at h
    have hs := settledSegment_iff.1 h.1
    rw [List.flatMap_cons, List.append_assoc, List.singleton_append,
      parsePath_succ (readSegment_setter_settled hs.1 _), if_pos rfl, stepPath_plain hs.2.1 hs.2.2,
      if_pos rfl, parsePath_setter_settled special segs m _ h.2 (by omega)]
    simp

/-- A setter reads a settled path followed by a slash as it is. -/
theorem parsePathStart_setter_settled {special : Bool} {segs : List (List Char)}
    (h : segs.all (settledSegment special) = true) :
    (parsePathStart special .setter [] (joinSegments segs ++ ['/'])).1 = joinSegments segs ++ ['/'] := by
  rw [joinSegments_slash]
  unfold parsePathStart
  cases special
  · dsimp only
    rw [if_neg (by decide), if_neg (by decide), if_neg (by simp), List.length_cons,
      parsePath_root_slash false (by decide), parsePath_setter_settled false segs _ _ h (by omega)]
    rfl
  · dsimp only
    rw [if_pos rfl, if_pos (by simp), if_pos (by simp),
      parsePath_setter_settled true segs _ _ h (by simp only [List.length_cons]; omega)]
    rfl

/-- **`setPath` keeps a settled path.** On a URL that can be a base, a
settled path followed by a slash is read as itself. -/
theorem setPath_settled {u : Url} (hu : u.cannotBeABase = false) {segs : List (List Char)}
    (h : segs.all (settledSegment u.special) = true) :
    u.setPath (String.ofList (joinSegments segs ++ ['/'])) =
      { u with path := String.ofList (joinSegments segs ++ ['/']) } := by
  have hfilter : (joinSegments segs ++ ['/']).filter (!isTabOrNewline ·) = joinSegments segs ++ ['/'] := by
    rw [← joinSegments_concat segs [], List.filter_eq_self]
    intro d hd
    rw [isTabOrNewline_of_mem_joinSegments
      (by simp [h, settledSegment_nil] : (segs ++ [[]]).all (settledSegment u.special) = true) hd]
    rfl
  rw [setPath_eq hu, String.toList_ofList, hfilter, parsePathStart_setter_settled h]

end RoomConsole.Url
