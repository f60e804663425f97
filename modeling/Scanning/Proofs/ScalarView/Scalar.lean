import Scanning.ScalarView
import Scanning.Proofs.Layout
import Scanning.Proofs.Utf8.Decoding

namespace Scanning.ScalarView

open Utf8

/-- The view of these bytes. -/
def ofBytes (data : List UInt8) : ScalarView := ⟨data.toArray⟩

variable {data rest : List UInt8} {c : Char} {k : Nat}

theorem size_ofBytes (data : List UInt8) : (ofBytes data).data.size = data.length :=
  List.size_toArray

theorem lt_length_of_character (h : data.drop k = String.utf8EncodeChar c ++ rest) :
    k < data.length := by
  obtain ⟨lead, tail, hbytes, -⟩ := exists_isSequence c
  rw [hbytes] at h
  exact lt_length_of_drop_eq h

theorem byteAt_eq {byte : UInt8} (h : data[k]? = some byte) :
    (ofBytes data).byteAt k = .ok byte := by
  obtain ⟨hk, -⟩ := List.getElem?_eq_some_iff.1 h
  rw [← size_ofBytes data] at hk
  rw [byteAt, resolveIndex_natCast hk]
  simp [ofBytes, h]

/-- The lead byte announces as many bytes as there are. -/
theorem width_eq (h : data.drop k = String.utf8EncodeChar c ++ rest) :
    (ofBytes data).width k = .ok (String.utf8EncodeChar c).length := by
  obtain ⟨lead, tail, hbytes, hsequence⟩ := exists_isSequence c
  rw [hbytes] at h ⊢
  have hfirst : data[k]? = some lead := by
    rw [← List.head?_drop, h]
    rfl
  have hroom := add_length_le_of_drop_eq (Nat.le_of_lt (lt_length_of_drop_eq h)) h
  have hinside : ¬ (k : Int) + (leadWidth lead : Int) > (ofBytes data).data.size := by
    rw [size_ofBytes, hsequence.width]
    rw [List.length_cons] at hroom
    omega
  have hlead : ¬ leadWidth lead = 0 := by
    rw [hsequence.width]
    omega
  simp only [width, byteAt_eq hfirst, bind, Except.bind, pure, Except.pure]
  rw [if_neg hlead, if_neg hinside, hsequence.width, List.length_cons]

/-- Where the bytes of a character are next the step forward leads behind them. -/
theorem after_eq (h : data.drop k = String.utf8EncodeChar c ++ rest) :
    (ofBytes data).after k = .ok (k + (String.utf8EncodeChar c).length : Nat) := by
  have hk := lt_length_of_character h
  rw [after, if_pos ⟨by omega, by rw [size_ofBytes]; omega⟩, width_eq h]
  rfl

/-- Bytes that are the encoding of some characters are sliced into them. -/
theorem slice_eq {i j : Nat} {chars : List Char} (h : (data.take j).drop i = encode chars) :
    (ofBytes data).slice i j = .ok chars := by
  rw [slice, sliceBetween_natCast]
  simp only [ofBytes, h, decode_encode]

theorem textAt_eq (h : data.drop k = String.utf8EncodeChar c ++ rest) :
    (ofBytes data).textAt k = .ok [c] := by
  have hpiece : (data.take (k + (String.utf8EncodeChar c).length)).drop k = encode [c] := by
    rw [List.drop_take, Nat.add_sub_cancel_left, h, List.take_left]
    exact (List.append_nil _).symm
  simp only [textAt, width_eq h, bind, Except.bind]
  exact slice_eq hpiece

/-- Where no character is, its lead byte is none, its bytes are cut off, or they are refused. -/
theorem textAt_malformed (hk : k < data.length)
    (hnone : ∀ c : Char, ¬ String.utf8EncodeChar c <+: data.drop k) :
    ∃ stretch, (ofBytes data).textAt k = .error (.malformed stretch) := by
  have hfirst : data[k]? = some data[k] := List.getElem?_eq_getElem hk
  simp only [textAt, width, byteAt_eq hfirst, bind, Except.bind, pure, Except.pure]
  by_cases hlead : leadWidth data[k] = 0
  · rw [if_pos hlead]
    exact ⟨_, rfl⟩
  rw [if_neg hlead]
  by_cases hroom : (k : Int) + (leadWidth data[k] : Int) > (ofBytes data).data.size
  · rw [if_pos hroom]
    exact ⟨_, rfl⟩
  rw [if_neg hroom]
  -- The slice is decoded; a text in it would begin with a character.
  generalize hwidth : leadWidth data[k] = width at hlead
  change ∃ stretch, (ofBytes data).slice k (k + width : Nat) = .error (.malformed stretch)
  rw [slice, sliceBetween_natCast]
  cases hdecode : decode (((ofBytes data).data.toList.take (k + width)).drop k) with
  | error stretch => exact ⟨stretch, rfl⟩
  | ok chars =>
    have hpiece : encode chars = (data.drop k).take width := by
      rw [decode_eq_ok_iff.1 hdecode, List.drop_take, Nat.add_sub_cancel_left]
      rfl
    cases chars with
    | nil =>
      obtain ⟨width, rfl⟩ := Nat.exists_eq_succ_of_ne_zero hlead
      rw [List.drop_eq_getElem_cons hk, encode_nil, List.take_succ_cons] at hpiece
      cases hpiece
    | cons c more =>
      have hbegins : String.utf8EncodeChar c <+: (data.drop k).take width := ⟨encode more, hpiece⟩
      exact absurd (hbegins.trans (List.take_prefix width _)) (hnone c)

end Scanning.ScalarView
