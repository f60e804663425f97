import Scanning.Proofs.ScalarView.Scalar

namespace Scanning.ScalarView

open Utf8

/-- The view of the bytes of these characters. -/
def encoding (chars : List Char) : ScalarView := ⟨(encode chars).toArray⟩

variable {chars : List Char} {k : Nat}

theorem size_encoding (chars : List Char) :
    (encoding chars).data.size = byteOffset chars chars.length := by
  rw [byteOffset_length]
  exact size_ofBytes (encode chars)

/-- The bytes from the offset of a character on: its own, and then those of the next ones. -/
theorem drop_byteOffset (hk : k < chars.length) :
    (encode chars).drop (byteOffset chars k) =
      String.utf8EncodeChar chars[k] ++ encode (chars.drop (k + 1)) := by
  rw [drop_encode, List.drop_eq_getElem_cons hk, encode_cons]

/-- The step forward from the offset of a character leads to the offset of the next one. -/
theorem after_encoding (hk : k < chars.length) :
    (encoding chars).after (byteOffset chars k) = .ok (byteOffset chars (k + 1)) := by
  rw [byteOffset_succ hk]
  exact after_eq (drop_byteOffset hk)

/-- At the end the step forward is refused, and not for the bytes. -/
theorem after_end_encoding (chars : List Char) :
    ∃ cause, (encoding chars).after (byteOffset chars chars.length) =
      .error (.outOfBounds cause) := by
  rw [after, if_neg (by rw [size_encoding]; omega)]
  exact ⟨_, rfl⟩

/-- Between the offsets of two characters the bytes are those of the characters between. -/
theorem slice_encoding (i j : Nat) :
    (encoding chars).slice (byteOffset chars i) (byteOffset chars j) =
      .ok ((chars.take j).drop i) :=
  slice_eq (drop_take_encode chars i j)

/-- The bytes at the offset of a character decode to it. -/
theorem textAt_encoding (hk : k < chars.length) :
    (encoding chars).textAt (byteOffset chars k) = .ok [chars[k]] :=
  textAt_eq (drop_byteOffset hk)

/-- The element at the offset of a character is that character. -/
theorem elementAt_encoding (hk : k < chars.length) :
    (encoding chars).elementAt (byteOffset chars k) = .ok chars[k] := by
  simp only [elementAt, textAt_encoding hk, bind, Except.bind, pure, Except.pure]

/-- From inside a character the walk back over continuation bytes ends at its lead byte. -/
theorem startBelow_encoding (hk : k < chars.length) {i : Nat} (hlow : byteOffset chars k ≤ i)
    (hhigh : i < byteOffset chars (k + 1)) :
    (encoding chars).startBelow i = .ok (byteOffset chars k) := by
  obtain ⟨lead, tail, hword, hsequence⟩ := exists_isSequence chars[k]
  have hbytes := drop_byteOffset hk
  have hnext := byteOffset_succ hk
  rw [hword, List.cons_append] at hbytes
  rw [hword, List.length_cons] at hnext
  induction i with
  | zero =>
    rw [startBelow]
    exact congrArg Except.ok (by omega)
  | succ i ih =>
    have hbyte : (encode chars)[i + 1]? =
        (lead :: (tail ++ encode (chars.drop (k + 1))))[i + 1 - byteOffset chars k]? := by
      rw [← hbytes, List.getElem?_drop]
      congr 1
      omega
    by_cases hstart : i + 1 = byteOffset chars k
    · have hlead : (encode chars)[i + 1]? = some lead := by
        rw [hbyte, hstart, Nat.sub_self]
        rfl
      have hbyteAt : (encoding chars).byteAt (i + 1 : Nat) = .ok lead := byteAt_eq hlead
      simp only [startBelow, hbyteAt, hsequence.lead_starts, bind, Except.bind,
        Bool.false_eq_true, ↓reduceIte]
      rw [hstart]
      rfl
    · have hinside : i - byteOffset chars k < tail.length := by omega
      have hcont : (encode chars)[i + 1]? = some tail[i - byteOffset chars k] := by
        rw [hbyte, show i + 1 - byteOffset chars k = i - byteOffset chars k + 1 by omega,
          List.getElem?_cons_succ, List.getElem?_append_left hinside,
          List.getElem?_eq_getElem hinside]
      have hcontinues := hsequence.tail_continues _ (List.getElem_mem hinside)
      have hbyteAt : (encoding chars).byteAt (i + 1 : Nat) =
          .ok tail[i - byteOffset chars k] := byteAt_eq hcont
      simp only [startBelow, hbyteAt, hcontinues, bind, Except.bind, ↓reduceIte]
      exact ih (by omega) (by omega)

theorem before_encoding (hk : k < chars.length) :
    (encoding chars).before (byteOffset chars (k + 1)) = .ok (byteOffset chars k) := by
  have hlt := byteOffset_lt_succ hk
  have hstart : ((byteOffset chars (k + 1) : Int) - 1).toNat = byteOffset chars (k + 1) - 1 := by
    omega
  rw [before, hstart, startBelow_encoding hk (by omega) (by omega)]
  rfl

end Scanning.ScalarView
