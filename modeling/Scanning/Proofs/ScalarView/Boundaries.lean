import Mathlib.Order.Bounds.Defs
import Scanning.Proofs.ScalarView.Landing

namespace Scanning

open IndexSpace Utf8

variable {data : List UInt8} {chars : List Char} {i j k first : Nat}

namespace Utf8

/-- A place between two characters, or at either end: the bytes on both sides of it are
well-formed. -/
structure IsBoundary (data : List UInt8) (k : Nat) : Prop where
  le_length : k ≤ data.length
  front : WellFormed (data.take k)
  back : WellFormed (data.drop k)

/-- The offsets of the characters are boundaries. -/
theorem isBoundary_byteOffset (chars : List Char) (m : Nat) :
    IsBoundary (encode chars) (byteOffset chars m) where
  le_length := byteOffset_le_size chars m
  front := wellFormed_iff.2 ⟨_, (take_encode chars m).symm⟩
  back := wellFormed_iff.2 ⟨_, (drop_encode chars m).symm⟩

/-- What stands at a boundary is a lead byte. -/
theorem IsBoundary.halts (h : IsBoundary data k) (hk : k < data.length) : Halts data k := by
  obtain ⟨chars, hchars⟩ := wellFormed_iff.1 h.back
  cases chars with
  | nil =>
    have hlength := congrArg List.length hchars
    rw [encode_nil, List.length_nil, List.length_drop] at hlength
    omega
  | cons c chars =>
    obtain ⟨lead, tail, hword, hsequence⟩ := exists_isSequence c
    rw [encode_cons, hword, List.cons_append, List.drop_eq_getElem_cons hk,
      List.cons.injEq] at hchars
    refine ⟨lead, ?_, .inr hsequence.lead_starts⟩
    rw [List.getElem?_eq_getElem hk, hchars.1]

end Utf8

namespace ScalarView

/-- In well-formed bytes the boundaries in front of the end are the halts. -/
theorem isBoundary_iff_halts (hdata : WellFormed data) (hk : k < data.length) :
    IsBoundary data k ↔ Halts data k := by
  refine ⟨fun h => h.halts hk, fun h => ?_⟩
  obtain ⟨chars, rfl⟩ := wellFormed_iff.1 hdata
  obtain ⟨m, -, rfl⟩ := exists_byteOffset_of_halts h
  exact isBoundary_byteOffset chars m

/-- The walk back over continuation bytes passes over no halt. -/
theorem le_startBelow (hk : k < data.length) (h : (ofBytes data).startBelow k = .ok first)
    (hj : Halts data j) (hle : j ≤ k) : j ≤ first := by
  induction k with
  | zero => omega
  | succ k ih =>
    by_cases hlast : j = k + 1
    · subst hlast
      rw [startBelow_of_halts hj] at h
      cases h
      exact Nat.le_refl _
    · have hsize : k + 1 < (ofBytes data).data.size := by rwa [size_ofBytes]
      rw [(ofBytes data).startBelow_succ hsize] at h
      split at h
      · exact ih (by omega) h (by omega)
      · cases h
        exact hle

/-- In front of an index the step back finds the last halt. -/
theorem exists_before_isGreatest (hpos : 0 < i) (hi : i ≤ data.length) :
    ∃ k < i, (ofBytes data).before i = .ok k ∧ IsGreatest {j | j < i ∧ Halts data j} k := by
  obtain ⟨last, rfl⟩ : ∃ last, i = last + 1 := ⟨i - 1, by omega⟩
  obtain ⟨k, hle, hstart, hhalts⟩ := exists_startBelow_halts hi
  refine ⟨k, by omega, ?_, ⟨by omega, hhalts⟩, ?_⟩
  · rw [Int.natCast_add, Int.natCast_one, before_natCast, hstart]
    rfl
  · rintro j ⟨hlt, hj⟩
    exact le_startBelow hi hstart hj (by omega)

/-- A walk back by one is a step back. -/
theorem offset_neg_one (view : ScalarView) (hpos : 0 < i) :
    view.offset i (-1) = view.before i := by
  rw [offset_eq_stepTimes]
  change view.retreat i >>= _ = _
  rw [retreat, if_neg (by omega)]
  exact bind_pure _

/-- From any index in the bytes or at their end, inside a character too, the step back leads to the
last boundary in front of it, if the bytes are well-formed. Whatever they are, it leads to the last
byte in front of it that is no continuation byte, or to the first byte if there is none. -/
theorem before_greatest_boundary (data : List UInt8) {i : Nat} (hpos : 0 < i)
    (hi : i ≤ data.length) :
    ∃ k < i, (ofBytes data).before i = .ok (k : Int) ∧
      IndexSpace.offset (ofBytes data) i (-1) = .ok (k : Int) ∧
      (WellFormed data → IsGreatest {j | j < i ∧ IsBoundary data j} k) ∧
      (k ≠ 0 → ∃ byte, data[k]? = some byte ∧ isContinuation byte = false) ∧
      IsGreatest {j | j < i ∧ Halts data j} k := by
  obtain ⟨k, hk, hbefore, hgreatest⟩ := exists_before_isGreatest hpos hi
  have hoffset : (ofBytes data).offset i (-1) = .ok (k : Int) := by
    rw [offset_neg_one _ hpos, hbefore]
  obtain ⟨byte, hbyte, hhalts⟩ := hgreatest.1.2
  refine ⟨k, hk, hbefore, hoffset, fun hdata => ?_, fun hne => ?_, hgreatest⟩
  · have hsame : {j | j < i ∧ IsBoundary data j} = {j | j < i ∧ Halts data j} := by
      ext j
      exact and_congr_right fun hj => isBoundary_iff_halts hdata (by omega)
    rw [hsame]
    exact hgreatest
  · exact ⟨byte, hbyte, hhalts.resolve_left hne⟩

/-- From inside the euro sign the step back leads to its first byte. -/
theorem before_greatest_boundary_euro :
    0 < 3 ∧ 3 ≤ (encode ['a', '€', 'b']).length ∧ WellFormed (encode ['a', '€', 'b']) ∧
      (ofBytes (encode ['a', '€', 'b'])).before (3 : Nat) = .ok (1 : Nat) ∧
      IsGreatest {j | j < 3 ∧ IsBoundary (encode ['a', '€', 'b']) j} 1 := by
  have hlength : 3 ≤ (encode ['a', '€', 'b']).length := by decide
  have hdata : WellFormed (encode ['a', '€', 'b']) := ⟨_, decode_encode _⟩
  have hone : (ofBytes (encode ['a', '€', 'b'])).before (3 : Nat) = .ok (1 : Nat) := rfl
  obtain ⟨k, -, hbefore, -, hgreatest, -⟩ :=
    before_greatest_boundary (encode ['a', '€', 'b']) (i := 3) (by decide) hlength
  obtain rfl : k = 1 := Int.ofNat.inj (Except.ok.inj (hbefore.symm.trans hone))
  exact ⟨by decide, hlength, hdata, hbefore, hgreatest hdata⟩

end ScalarView

end Scanning
