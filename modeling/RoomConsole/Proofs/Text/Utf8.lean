import RoomConsole.Proofs.Url.Percent

/-!
# Reading bytes as text, one line at a time

`decode` reads bytes as UTF-8, one U+FFFD for each ill-formed stretch. An
ASCII byte is never part of a longer sequence: it ends any sequence the
bytes before it began, and reads as its own character. So decoding splits
at an ASCII byte (`decode_append_ascii`), and an ASCII character other than
NUL is in the text only where its byte is in the bytes (`mem_decode_ascii`).
A reader that cuts bytes at line feeds before reading each line as text
therefore reads what cutting the text would give.
-/

namespace RoomConsole.Text.Utf8

theorem isTail_eq_false {a : UInt8} (ha : a.toNat < 0x80) : isTail a = false := by
  simp only [isTail, Bool.and_eq_false_iff, decide_eq_false_iff_not, UInt8.le_iff_toNat_le]
  left
  simp only [UInt8.reduceToNat]
  omega

/-- What a lead byte asks of the bytes after it: a second byte from 0x80 to
0xBF at most, and one, two or three bytes in all according to its range. -/
theorem leadShape_eq_some {b lo hi : UInt8} {n : Nat} (h : leadShape b = some (lo, hi, n)) :
    0x80 ≤ lo.toNat ∧ hi.toNat ≤ 0xBF ∧
      ((n = 1 ∧ 0xC2 ≤ b.toNat ∧ b.toNat ≤ 0xDF) ∨
        (n = 2 ∧ 0xE0 ≤ b.toNat ∧ b.toNat ≤ 0xEF ∧ (b.toNat = 0xE0 → lo.toNat = 0xA0)) ∨
        (n = 3 ∧ 0xF0 ≤ b.toNat ∧ b.toNat ≤ 0xF4 ∧ (b.toNat = 0xF0 → lo.toNat = 0x90))) := by
  unfold leadShape at h
  repeat' split at h
  all_goals cases h
  all_goals simp_all [UInt8.le_iff_toNat_le, ← UInt8.toNat_inj]
  all_goals omega

/-- An ASCII byte is no second byte of any lead byte. -/
theorem not_inRange_of_ascii {a : UInt8} (ha : a.toNat < 0x80) {lo : UInt8} (hlo : 0x80 ≤ lo.toNat)
    (hi : UInt8) : (!(lo ≤ a && a ≤ hi)) = true := by
  simp only [Bool.not_eq_true', Bool.and_eq_false_iff, decide_eq_false_iff_not, UInt8.le_iff_toNat_le]
  omega

/-- **An ASCII byte ends the sequence before it.** Reading a character from
bytes that an ASCII byte follows reads it from those bytes alone, and
leaves the ASCII byte unread. -/
theorem next_append_ascii {a : UInt8} (ha : a.toNat < 0x80) (b : UInt8) (l rest : List UInt8) :
    next b (l ++ a :: rest) = ((next b l).1, (next b l).2 ++ a :: rest) := by
  unfold next
  split
  · rfl
  · cases hs : leadShape b with
    | none => rfl
    | some s =>
      obtain ⟨lo, hi, n⟩ := s
      have hlo := (leadShape_eq_some hs).1
      have hnot := not_inRange_of_ascii ha hlo hi
      have htail := isTail_eq_false ha
      -- follow the sequence byte by byte: `a` stops it wherever it comes
      rcases l with _ | ⟨c, _ | ⟨d, _ | ⟨e, l⟩⟩⟩
      · simp [hnot]
      · by_cases hc : (!(lo ≤ c && c ≤ hi)) = true
        · simp [hc]
        · by_cases hn1 : n = 1
          · simp [hc, hn1]
          · simp [hc, hn1, htail]
      · by_cases hc : (!(lo ≤ c && c ≤ hi)) = true
        · simp [hc]
        · by_cases hn1 : n = 1
          · simp [hc, hn1]
          · by_cases hd : (!isTail d) = true
            · simp [hc, hn1, hd]
            · by_cases hn2 : n = 2
              · simp [hc, hd, hn2]
              · simp [hc, hn1, hd, hn2, htail]
      · by_cases hc : (!(lo ≤ c && c ≤ hi)) = true
        · simp [hc]
        · by_cases hn1 : n = 1
          · simp [hc, hn1]
          · by_cases hd : (!isTail d) = true
            · simp [hc, hn1, hd]
            · by_cases hn2 : n = 2
              · simp [hc, hd, hn2]
              · by_cases he : (!isTail e) = true
                · simp [hc, hn1, hd, hn2, he]
                · simp [hc, hn1, hd, hn2, he]

/-- **Decoding splits at an ASCII byte**: the bytes before it read on their
own, and the byte reads as its own character. -/
theorem decode_append_ascii {a : UInt8} (ha : a.toNat < 0x80) (l rest : List UInt8) :
    decode (l ++ a :: rest) = decode l ++ Char.ofNat a.toNat :: decode rest := by
  fun_induction decode l with
  | case1 =>
    -- the ASCII byte comes first and reads as itself
    have hlt : a < 0x80 := UInt8.lt_iff_toNat_lt.2 ha
    rw [List.nil_append, decode.eq_2]
    simp [next, hlt]
  | case2 b l _ ih =>
    rw [List.cons_append, decode.eq_2, next_append_ascii ha, ih, List.cons_append]

/-- An ASCII byte first reads as its own character. -/
theorem decode_cons_ascii {a : UInt8} (ha : a.toNat < 0x80) (rest : List UInt8) :
    decode (a :: rest) = Char.ofNat a.toNat :: decode rest := by
  have h := decode_append_ascii ha [] rest
  rwa [List.nil_append, decode.eq_1, List.nil_append] at h

/-- A lead byte of no ASCII character reads as U+FFFD or as a character
from U+0080 on. -/
theorem next_fst_cases (b : UInt8) (rest : List UInt8) (hb : ¬ b < 0x80) :
    (next b rest).1 = replacement ∨ ∃ p, 0x80 ≤ p ∧ (next b rest).1 = Char.ofNat p := by
  unfold next
  rw [if_neg hb]
  split
  · exact .inl rfl
  · exact .inl rfl
  · rename_i lo hi n c rest₁ hs
    obtain ⟨hlo, hhi, hshape⟩ := leadShape_eq_some hs
    split
    · exact .inl rfl
    · rename_i hc
      have hc' : lo.toNat ≤ c.toNat ∧ c.toNat ≤ hi.toNat := by simpa [UInt8.le_iff_toNat_le] using hc
      split
      · right
        refine ⟨_, ?_, rfl⟩
        simp only [point2, low6]
        omega
      · split
        · exact .inl rfl
        · split
          · exact .inl rfl
          · split
            · right
              refine ⟨_, ?_, rfl⟩
              simp only [point3, low6]
              omega
            · split
              · exact .inl rfl
              · split
                · exact .inl rfl
                · right
                  refine ⟨_, ?_, rfl⟩
                  simp only [point4, low6]
                  omega

/-- A number that is no character reads as NUL. -/
theorem toNat_ofNat_cases (p : Nat) : (Char.ofNat p).toNat = p ∨ (Char.ofNat p).toNat = 0 := by
  unfold Char.ofNat
  split
  · exact .inl (by simp [Char.ofNatAux, Char.toNat, UInt32.toNat_ofNatLT])
  · exact .inr rfl

/-- A character read from a lead byte of ASCII other than NUL is read from
that very byte. -/
theorem next_fst_eq_ascii {a b : UInt8} {rest : List UInt8} (ha0 : 0 < a.toNat) (ha : a.toNat < 0x80)
    (h : (next b rest).1 = Char.ofNat a.toNat) : b = a := by
  have hva : (Char.ofNat a.toNat).toNat = a.toNat := toNat_ofNat_of_lt (by omega)
  by_cases hb : b < 0x80
  · -- an ASCII byte reads as itself
    have hb' : b.toNat < 0x80 := UInt8.lt_iff_toNat_lt.1 hb
    simp only [next, hb, if_true] at h
    have hvb : (Char.ofNat b.toNat).toNat = b.toNat := toNat_ofNat_of_lt (by omega)
    rw [← UInt8.toNat_inj, ← hvb, ← hva, h]
  · -- any other lead byte reads as U+FFFD or as a character from 0x80 on
    exfalso
    rcases next_fst_cases b rest hb with hr | ⟨p, hp, hr⟩
    · have := congrArg Char.toNat (hr.symm.trans h)
      rw [hva] at this
      simp [replacement] at this
      omega
    · have := congrArg Char.toNat (hr.symm.trans h)
      rw [hva] at this
      rcases toNat_ofNat_cases p with hp' | hp' <;> omega

/-- What is left after a character is read is the end of the bytes. -/
theorem next_snd_suffix (b : UInt8) (rest : List UInt8) : (next b rest).2 <:+ rest := by
  unfold next
  repeat' split
  all_goals simp_all [List.suffix_cons_iff]

/-- **An ASCII character other than NUL is read only from its byte.** -/
theorem mem_decode_ascii {a : UInt8} (ha0 : 0 < a.toNat) (ha : a.toNat < 0x80) (l : List UInt8)
    (h : Char.ofNat a.toNat ∈ decode l) : a ∈ l := by
  fun_induction decode l with
  | case1 => simp at h
  | case2 b l _ ih =>
    rw [List.mem_cons] at h
    rcases h with h | h
    · rw [next_fst_eq_ascii ha0 ha h.symm]
      exact List.mem_cons_self ..
    · exact List.mem_cons_of_mem _ ((next_snd_suffix b l).subset (ih h))

end RoomConsole.Text.Utf8
