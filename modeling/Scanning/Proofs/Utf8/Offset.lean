import Scanning.Proofs.Utf8.Encoding

namespace Scanning.Utf8

@[simp] theorem encode_nil : encode [] = [] := rfl

theorem encode_cons (c : Char) (chars : List Char) :
    encode (c :: chars) = String.utf8EncodeChar c ++ encode chars := rfl

/-- Texts one after the other are encoded one after the other. -/
theorem encode_append (chars more : List Char) :
    encode (chars ++ more) = encode chars ++ encode more := by
  rw [encode, List.flatMap_append]
  rfl

/-- The strict decoder reads back what was encoded, wherever the bytes are counted from. -/
theorem decodeFrom_encode (offset : Nat) (chars : List Char) :
    decodeFrom offset (encode chars) = .ok chars := by
  induction chars generalizing offset with
  | nil => rw [encode_nil, decodeFrom]
  | cons c chars ih =>
    obtain ⟨lead, tail, hbytes, hsequence⟩ := exists_isSequence c
    have hrest : (tail ++ encode chars).drop (leadWidth lead - 1) = encode chars := by
      rw [hsequence.width, Nat.add_sub_cancel, List.drop_left]
    rw [encode_cons, hbytes, List.cons_append, decodeFrom, hsequence.decodes]
    simp only [hrest, ih]
    rfl

/-- Decoding undoes encoding. -/
theorem decode_encode (chars : List Char) : decode (encode chars) = .ok chars :=
  decodeFrom_encode 0 chars

/-- How many bytes the first `k` characters of a text take. -/
def byteOffset (chars : List Char) (k : Nat) : Nat := (encode (chars.take k)).length

@[simp] theorem byteOffset_zero (chars : List Char) : byteOffset chars 0 = 0 := rfl

theorem byteOffset_length (chars : List Char) :
    byteOffset chars chars.length = (encode chars).length := by
  rw [byteOffset, List.take_length]

/-- The bytes from the offset of a character on encode the characters from there on. -/
theorem drop_encode (chars : List Char) (k : Nat) :
    (encode chars).drop (byteOffset chars k) = encode (chars.drop k) := by
  have hsplit : encode chars = encode (chars.take k) ++ encode (chars.drop k) := by
    rw [← encode_append, List.take_append_drop]
  rw [hsplit, byteOffset, List.drop_left]

theorem take_encode (chars : List Char) (k : Nat) :
    (encode chars).take (byteOffset chars k) = encode (chars.take k) := by
  have hsplit : encode chars = encode (chars.take k) ++ encode (chars.drop k) := by
    rw [← encode_append, List.take_append_drop]
  rw [hsplit, byteOffset, List.take_left]

/-- Each character stands behind the one before by as many bytes as that one takes. -/
theorem byteOffset_succ {chars : List Char} {k : Nat} (hk : k < chars.length) :
    byteOffset chars (k + 1) = byteOffset chars k + (String.utf8EncodeChar chars[k]).length := by
  rw [byteOffset, List.take_add_one, List.getElem?_eq_getElem hk, encode_append,
    List.length_append]
  simp [byteOffset, encode]

/-- Every character takes at least one byte. -/
theorem byteOffset_lt_succ {chars : List Char} {k : Nat} (hk : k < chars.length) :
    byteOffset chars k < byteOffset chars (k + 1) := by
  have hpos := List.length_pos_iff.2 (String.utf8EncodeChar_ne_nil (c := chars[k]))
  rw [byteOffset_succ hk]
  omega

theorem byteOffset_le_size (chars : List Char) (k : Nat) :
    byteOffset chars k ≤ (encode chars).length := by
  have hsplit : encode chars = encode (chars.take k) ++ encode (chars.drop k) := by
    rw [← encode_append, List.take_append_drop]
  rw [hsplit, List.length_append]
  exact Nat.le_add_right _ _

/-- The bytes between the offsets of two characters encode the characters between them. -/
theorem drop_take_encode (chars : List Char) (i j : Nat) :
    ((encode chars).take (byteOffset chars j)).drop (byteOffset chars i) =
      encode ((chars.take j).drop i) := by
  rw [take_encode]
  by_cases hij : i ≤ j
  · have htaken : byteOffset chars i = byteOffset (chars.take j) i := by
      rw [byteOffset, byteOffset, List.take_take, Nat.min_eq_left hij]
    rw [htaken, drop_encode]
  · have hempty : (chars.take j).drop i = [] := by
      rw [List.drop_eq_nil_iff, List.length_take]
      omega
    have htaken : chars.take j = (chars.take i).take j := by
      rw [List.take_take, Nat.min_eq_left (by omega)]
    rw [hempty, encode_nil, List.drop_eq_nil_iff, htaken]
    exact byteOffset_le_size (chars.take i) j

end Scanning.Utf8
