import Mathlib
import RoomConsole.Url.Parse

/-!
# Percent-encoding, read back

`encode` writes a text's UTF-8 bytes, each byte of the set as `%XX`. This
file proves that `percentDecode` reads every such text back to the bytes it
came from when the set holds `%` itself (`percentDecode_encode`), so that an
encoded text names its source exactly; that an ASCII text the set leaves
alone is written as itself (`encode_of_safe`); and that an encoded text
spells a dot segment (`.`, `%2e`, `..`, `.%2E`, ...) only when the source is
`.` or `..` (`eq_of_isSingleDot_encode`, `eq_of_isDoubleDot_encode`).

The bytes of a text are those of core's `String.toUTF8`, read through the
loop of `ByteArray.toList`; `Utf8.encode_eq` turns them into the list of
each character's bytes, which the rest works with.
-/

namespace RoomConsole.Text.Utf8

theorem toList_loop (bs : ByteArray) (i : Nat) (r : List UInt8) :
    ByteArray.toList.loop bs i r = r.reverse ++ bs.data.toList.drop i := by
  fun_induction ByteArray.toList.loop bs i r with
  | case1 i r hi ih =>
    rw [ih]
    have : bs.data.toList.drop i = bs.get! i :: bs.data.toList.drop (i + 1) := by
      rw [List.drop_eq_getElem_cons (by simpa using hi)]
      simp [ByteArray.get!, hi]
    simp [this]
  | case2 i r hi =>
    have h : bs.data.toList.length ≤ i := by
      rw [Array.length_toList]
      exact Nat.not_lt.1 hi
    simp [List.drop_eq_nil_of_le h]

/-- The bytes of a text are the bytes of its characters, in order. -/
theorem encode_eq (s : String) : encode s = s.toList.flatMap String.utf8EncodeChar := by
  rw [encode, ByteArray.toList, toList_loop, String.toUTF8_eq_toByteArray, ← String.utf8Encode_toList]
  simp [List.utf8Encode]

@[simp] theorem encode_empty : encode "" = [] := by
  simp [encode_eq]

theorem encode_append (s t : String) : encode (s ++ t) = encode s ++ encode t := by
  simp [encode_eq]

theorem toNat_ofNat_of_lt {n : Nat} (h : n < 0xd800) : (Char.ofNat n).toNat = n := by
  have hv : n.isValidChar := Or.inl h
  simp [Char.ofNat, hv, Char.ofNatAux, Char.toNat, UInt32.toNat_ofNatLT]

/-- An ASCII character is the one byte of its code. -/
theorem utf8EncodeChar_of_lt {c : Char} (h : c.toNat < 0x80) : String.utf8EncodeChar c = [c.toNat.toUInt8] := by
  have h1 : c.val.toNat ≤ 127 := by
    unfold Char.toNat at h
    omega
  rw [String.utf8EncodeChar_eq_singleton (Char.utf8Size_eq_one_iff.2 (UInt32.le_iff_toNat_le.2 h1))]
  rfl

theorem encode_ofNat {b : UInt8} (h : b < 0x80) : encode (String.singleton (Char.ofNat b.toNat)) = [b] := by
  have hb : b.toNat < 0x80 := h
  have hv : (Char.ofNat b.toNat).toNat = b.toNat := toNat_ofNat_of_lt (by omega)
  rw [encode_eq]
  simp [utf8EncodeChar_of_lt (c := Char.ofNat b.toNat) (by omega), hv]

/-- Two texts with the same bytes are the same text. -/
theorem encode_injective {s t : String} (h : encode s = encode t) : s = t := by
  rw [encode, encode, ByteArray.toList, ByteArray.toList, toList_loop, toList_loop] at h
  simp only [List.reverse_nil, List.nil_append, List.drop_zero, Array.toList_inj] at h
  exact String.toByteArray_inj.1 (ByteArray.ext (by simpa using h))

end RoomConsole.Text.Utf8

namespace RoomConsole.Url

open RoomConsole.Text

/-! ## Decoding undoes encoding -/

/-- The bytes a percent-encoded text stands for: each `%XX` read back as its byte. -/
def percentDecode (s : String) : List UInt8 := decodeBytes (Utf8.encode s)

theorem decodeBytes_cons_of_ne {b : UInt8} (h : b ≠ 0x25) (rest : List UInt8) :
    decodeBytes (b :: rest) = b :: decodeBytes rest := by
  match rest with
  | [] => rfl
  | [_] => rfl
  | x :: y :: r => simp [decodeBytes, h]

/-- The digits `hexUpper` writes are ASCII and read back as their value. -/
theorem hexUpper_digit : ∀ n < 16,
    (hexUpper.getD n '0').toNat < 0x80 ∧ hexDigit? (hexUpper.getD n '0').toNat.toUInt8 = some n := by
  decide

theorem decodeBytes_escapeByte (b : UInt8) (rest : List UInt8) :
    decodeBytes (Utf8.encode (escapeByte b) ++ rest) = b :: decodeBytes rest := by
  have hb : b.toNat < 256 := b.toNat_lt
  obtain ⟨hi1, hi2⟩ := hexUpper_digit (b.toNat / 16) (by omega)
  obtain ⟨lo1, lo2⟩ := hexUpper_digit (b.toNat % 16) (by omega)
  rw [Utf8.encode_eq, escapeByte, String.toList_ofList]
  simp only [List.flatMap_cons, List.flatMap_nil, Utf8.utf8EncodeChar_of_lt hi1,
    Utf8.utf8EncodeChar_of_lt lo1, Utf8.utf8EncodeChar_of_lt (c := '%') (by decide)]
  simp only [List.cons_append, List.nil_append, List.append_nil]
  rw [decodeBytes]
  simp only [hi2, lo2, show ('%'.toNat.toUInt8 == 37) = true from rfl]
  rw [show b.toNat / 16 * 16 + b.toNat % 16 = b.toNat by omega, UInt8.ofNat_toNat]

theorem encodeBytes_cons (set : EncodeSet) (b : UInt8) (bs : List UInt8) :
    encodeBytes set (b :: bs) =
      (if b ≥ 0x80 || set.encodes b then escapeByte b else String.singleton (Char.ofNat b.toNat))
        ++ encodeBytes set bs := by
  simp [encodeBytes, String.join_cons]

theorem encodeBytes_append (set : EncodeSet) (xs ys : List UInt8) :
    encodeBytes set (xs ++ ys) = encodeBytes set xs ++ encodeBytes set ys := by
  simp [encodeBytes, String.join_append]

/-- **Decoding undoes encoding**, for a set that encodes `%`: every `%` in
the output then begins an escape. -/
theorem decodeBytes_encodeBytes {set : EncodeSet} (hset : set.encodes 0x25 = true) :
    ∀ bs rest : List UInt8, decodeBytes (Utf8.encode (encodeBytes set bs) ++ rest) = bs ++ decodeBytes rest
  | [], rest => by simp [encodeBytes, String.join]
  | b :: bs, rest => by
    rw [encodeBytes_cons, Utf8.encode_append, List.append_assoc]
    split
    · rw [decodeBytes_escapeByte, decodeBytes_encodeBytes hset bs rest, List.cons_append]
    · next hb =>
      have hlt : b < 0x80 := by simp at hb; exact hb.1
      have hne : b ≠ 0x25 := by
        rintro rfl
        simp [hset] at hb
      rw [Utf8.encode_ofNat hlt, List.singleton_append, decodeBytes_cons_of_ne hne,
        decodeBytes_encodeBytes hset bs rest, List.cons_append]

theorem percentDecode_encode {set : EncodeSet} (hset : set.encodes 0x25 = true) (s : String) :
    percentDecode (encode set s) = Utf8.encode s := by
  have h := decodeBytes_encodeBytes hset (Utf8.encode s) []
  rwa [List.append_nil, show decodeBytes [] = [] from rfl, List.append_nil] at h

/-! ## Encoding character by character -/

theorem toList_encodeBytes_flatMap (set : EncodeSet) (f : Char → List UInt8) :
    ∀ l : List Char, (encodeBytes set (l.flatMap f)).toList = l.flatMap fun c => (encodeBytes set (f c)).toList
  | [] => by simp [encodeBytes, String.join]
  | c :: l => by
    rw [List.flatMap_cons, encodeBytes_append, String.toList_append, toList_encodeBytes_flatMap set f l,
      List.flatMap_cons]

/-- Encoding a text is encoding its characters one by one. -/
theorem toList_encode (set : EncodeSet) (l : List Char) :
    (encode set (String.ofList l)).toList = l.flatMap (encodeChar set) := by
  rw [encode, Utf8.encode_eq, String.toList_ofList, toList_encodeBytes_flatMap]
  congr 1
  funext c
  rw [encodeChar, Utf8.encodeChar, Utf8.encode_eq]
  simp

/-- An ASCII character its set leaves alone is written as itself. -/
theorem encodeChar_of_safe {set : EncodeSet} {c : Char} (hc : c.toNat < 0x80)
    (hs : set.encodes c.toNat.toUInt8 = false) : encodeChar set c = [c] := by
  have hb : c.toNat.toUInt8.toNat = c.toNat := by
    simp [Nat.mod_eq_of_lt (show c.toNat < 256 by omega)]
  have hlt : ¬ (0x80 ≤ c.toNat.toUInt8) := by
    rw [UInt8.le_iff_toNat_le, hb]
    simp only [UInt8.reduceToNat]
    omega
  rw [encodeChar, Utf8.encodeChar, Utf8.encode_eq]
  simp [Utf8.utf8EncodeChar_of_lt hc, hlt, hs, hb, encodeBytes, String.join]

/-- Whether a set leaves a character alone, the character being ASCII. -/
def keepsChar (set : EncodeSet) (c : Char) : Bool := c.toNat < 0x80 && !set.encodes c.toNat.toUInt8

/-- A text of ASCII characters its set leaves alone is written as itself. -/
theorem encode_of_safe {set : EncodeSet} {t : String} (h : t.toList.all (keepsChar set) = true) :
    encode set t = t := by
  have hl : ∀ l : List Char, l.all (keepsChar set) = true → l.flatMap (encodeChar set) = l := by
    intro l
    induction l with
    | nil => simp
    | cons c l ih =>
      intro hl
      rw [List.all_cons, Bool.and_eq_true] at hl
      have hc : c.toNat < 0x80 ∧ set.encodes c.toNat.toUInt8 = false := by simpa [keepsChar] using hl.1
      rw [List.flatMap_cons, encodeChar_of_safe hc.1 hc.2, ih hl.2]
      rfl
  apply String.toList_inj.1
  have he := toList_encode set t.toList
  rw [String.ofList_toList] at he
  rw [he]
  exact hl _ h

/-! ## Dot segments -/

/-- Every spelling of `..` decodes to two dots. -/
theorem percentDecode_of_isDoubleDot {seg : List Char} (h : isDoubleDot seg = true) :
    percentDecode (String.ofList seg) = [46, 46] := by
  have hmem : String.ofList seg ∈ ["..", "%2e%2e", "%2e%2E", "%2E%2e", "%2E%2E", "%2e.", "%2E.", ".%2e", ".%2E"] := by
    simpa [isDoubleDot] using h
  revert hmem
  generalize String.ofList seg = t
  simp only [List.mem_cons, List.not_mem_nil, or_false]
  rintro (rfl | rfl | rfl | rfl | rfl | rfl | rfl | rfl | rfl) <;>
    · rw [percentDecode, Utf8.encode_eq]
      decide

/-- Every spelling of `.` decodes to one dot. -/
theorem percentDecode_of_isSingleDot {seg : List Char} (h : isSingleDot seg = true) :
    percentDecode (String.ofList seg) = [46] := by
  have hmem : String.ofList seg ∈ [".", "%2e", "%2E"] := by
    simpa [isSingleDot] using h
  revert hmem
  generalize String.ofList seg = t
  simp only [List.mem_cons, List.not_mem_nil, or_false]
  rintro (rfl | rfl | rfl) <;>
    · rw [percentDecode, Utf8.encode_eq]
      decide

/-- An encoded text spells `..` only when it is `..`. -/
theorem eq_of_isDoubleDot_encode {set : EncodeSet} (hset : set.encodes 0x25 = true) {t : String}
    (h : isDoubleDot (encode set t).toList = true) : t = ".." := by
  have hd := percentDecode_of_isDoubleDot h
  rw [String.ofList_toList, percentDecode_encode hset] at hd
  exact Text.Utf8.encode_injective (hd.trans (by rw [Utf8.encode_eq]; decide))

/-- An encoded text spells `.` only when it is `.`. -/
theorem eq_of_isSingleDot_encode {set : EncodeSet} (hset : set.encodes 0x25 = true) {t : String}
    (h : isSingleDot (encode set t).toList = true) : t = "." := by
  have hd := percentDecode_of_isSingleDot h
  rw [String.ofList_toList, percentDecode_encode hset] at hd
  exact Text.Utf8.encode_injective (hd.trans (by rw [Utf8.encode_eq]; decide))

end RoomConsole.Url
