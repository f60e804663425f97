import Scanning.Proofs.ScalarView.Encoded
import Scanning.Proofs.ScalarView.Reading
import Scanning.Proofs.ScalarView.Steps
import Scanning.Proofs.Tail.Subject

namespace Scanning

open IndexSpace Utf8

variable {data : List UInt8} {chars : List Char} {k : Nat}

namespace Utf8

/-- A byte at which walking back over continuation bytes comes to a halt: one that is none, or the
first of all. -/
def Halts (data : List UInt8) (k : Nat) : Prop :=
  ∃ byte, data[k]? = some byte ∧ (k = 0 ∨ isContinuation byte = false)

/-- A byte that no step forward begins at: it announces no character, or more bytes than there
are. -/
def Blocks (data : List UInt8) (k : Nat) : Prop :=
  ∃ byte, data[k]? = some byte ∧ (leadWidth byte = 0 ∨ data.length < k + leadWidth byte)

/-- Every byte of an encoded text belongs to a character. -/
theorem exists_byteOffset_le (hk : k < (encode chars).length) :
    ∃ m < chars.length, byteOffset chars m ≤ k ∧ k < byteOffset chars (m + 1) := by
  have hstops (m : Nat) (hbelow : k < byteOffset chars m) :
      ∃ j < m, byteOffset chars j ≤ k ∧ k < byteOffset chars (j + 1) := by
    induction m with
    | zero => exact absurd hbelow (Nat.not_lt_zero k)
    | succ m ih =>
      by_cases hle : byteOffset chars m ≤ k
      · exact ⟨m, Nat.lt_succ_self m, hle, hbelow⟩
      · obtain ⟨j, hj, hbounds⟩ := ih (by omega)
        exact ⟨j, by omega, hbounds⟩
  exact hstops chars.length (by rw [byteOffset_length]; exact hk)

end Utf8

namespace ScalarView

/-- A byte at which the walk back halts is where the search from it ends. -/
theorem startBelow_of_halts (h : Halts data k) : (ofBytes data).startBelow k = .ok k := by
  obtain ⟨byte, hbyte, hhalts⟩ := h
  cases k with
  | zero => rfl
  | succ k =>
    obtain ⟨hk, rfl⟩ := List.getElem?_eq_some_iff.1 hbyte
    obtain hfirst | hnone := hhalts
    · omega
    · rw [(ofBytes data).startBelow_succ hk, if_neg]
      exact Bool.eq_false_iff.1 hnone

/-- Walking back over continuation bytes from inside the bytes ends where it comes to a halt. -/
theorem exists_startBelow_halts (hk : k < data.length) :
    ∃ first ≤ k, (ofBytes data).startBelow k = .ok first ∧ Halts data first := by
  obtain ⟨first, hle, hstart, hhalts⟩ := (ofBytes data).exists_startBelow_le hk
  have hbyte : data[first]? = some data[first] := List.getElem?_eq_getElem (by omega)
  have hfound : (ofBytes data).data[first]? = some data[first] := by simp [ofBytes]
  exact ⟨first, hle, hstart, _, hbyte, hhalts.imp_right fun h => h _ hfound⟩

/-- In encoded texts the halts are the offsets of the characters. -/
theorem exists_byteOffset_of_halts (h : Halts (encode chars) k) :
    ∃ m < chars.length, k = byteOffset chars m := by
  obtain ⟨byte, hbyte, -⟩ := id h
  obtain ⟨hk, -⟩ := List.getElem?_eq_some_iff.1 hbyte
  obtain ⟨m, hm, hlow, hhigh⟩ := exists_byteOffset_le hk
  have hstart : (ofBytes (encode chars)).startBelow k = .ok (byteOffset chars m) :=
    startBelow_encoding hm hlow hhigh
  exact ⟨m, hm, Except.ok.inj ((startBelow_of_halts h).symm.trans hstart)⟩

/-- The step forward is refused for the bytes exactly where they block it. -/
theorem after_malformed_iff :
    (∃ stretch, (ofBytes data).after k = .error (.malformed stretch)) ↔ Blocks data k := by
  by_cases hk : k < data.length
  · have hbyte : data[k]? = some data[k] := List.getElem?_eq_getElem hk
    have hblocks : Blocks data k ↔
        leadWidth data[k] = 0 ∨ data.length < k + leadWidth data[k] := by
      simp [Blocks, hbyte]
    rw [hblocks, after, if_pos ⟨by omega, by rw [size_ofBytes]; omega⟩]
    simp only [width, byteAt_eq hbyte, size_ofBytes, bind, Except.bind, pure, Except.pure]
    by_cases hlead : leadWidth data[k] = 0
    · rw [if_pos hlead]
      exact ⟨fun _ => .inl hlead, fun _ => ⟨_, rfl⟩⟩
    rw [if_neg hlead]
    by_cases hlong : (k : Int) + (leadWidth data[k] : Int) > data.length
    · rw [if_pos hlong]
      exact ⟨fun _ => .inr (by omega), fun _ => ⟨_, rfl⟩⟩
    · rw [if_neg hlong]
      refine ⟨?_, by omega⟩
      rintro ⟨stretch, hafter⟩
      cases hafter
  · have hnone : ¬ Blocks data k := by
      rintro ⟨byte, hbyte, -⟩
      exact hk (List.getElem?_eq_some_iff.1 hbyte).1
    rw [after, if_neg (by rw [size_ofBytes]; omega)]
    refine ⟨?_, fun h => absurd h hnone⟩
    rintro ⟨stretch, hafter⟩
    cases hafter

/-- Well-formed bytes block no step from a halt. -/
theorem not_blocks_of_wellFormed (hdata : WellFormed data) (hhalts : Halts data k) :
    ¬ Blocks data k := by
  obtain ⟨chars, rfl⟩ := wellFormed_iff.1 hdata
  obtain ⟨m, hm, rfl⟩ := exists_byteOffset_of_halts hhalts
  rw [← after_malformed_iff]
  rintro ⟨stretch, hafter⟩
  have hstep : (ofBytes (encode chars)).after (byteOffset chars m) =
      .ok (byteOffset chars (m + 1)) := after_encoding hm
  rw [hstep] at hafter
  cases hafter

/-- A step back leads to a halt further back. -/
theorem exists_halt_of_retreat {index target : Int} (hindex : index ≤ data.length)
    (h : (ofBytes data).retreat index = .ok target) :
    ∃ k : Nat, target = k ∧ (k : Int) < index ∧ Halts data k := by
  unfold retreat at h
  split at h
  · cases h
  obtain ⟨k, rfl⟩ : ∃ k : Nat, index = k + 1 := ⟨(index - 1).toNat, by omega⟩
  obtain ⟨first, hle, hstart, hhalts⟩ := exists_startBelow_halts (show k < data.length by omega)
  rw [before_natCast, hstart] at h
  cases h
  exact ⟨first, rfl, by omega, hhalts⟩

/-- And from just behind a halt it leads to that one. -/
theorem offset_back_to_halt (h : Halts data k) :
    (ofBytes data).offset (k + 1 : Nat) (-(1 : Nat)) = .ok k := by
  rw [offset_eq_stepTimes]
  change (ofBytes data).retreat (k + 1 : Nat) >>= _ = _
  rw [retreat, if_neg (by omega), Int.natCast_add, Int.natCast_one, before_natCast,
    startBelow_of_halts h]
  rfl

/-- A walk back arrives at a halt further back, if it does not leave the view; it is not refused for
the bytes that it meets. The step forward from where it arrives is, exactly if the bytes there block
it, which those of a text do not. Each halt is arrived at. -/
theorem offset_back_malformed_iff (data : List UInt8) {i n : Nat} (hi : i ≤ data.length)
    (hn : 0 < n) :
    (∀ fault, IndexSpace.offset (ofBytes data) i (-(n : Int)) = .error fault →
      fault = .outOfBounds .beforeStart) ∧
    (∀ target, IndexSpace.offset (ofBytes data) i (-(n : Int)) = .ok target →
      ∃ k < i, target = (k : Int) ∧ Halts data k ∧
        ((∃ stretch, IndexSpace.after (ofBytes data) target = .error (.malformed stretch)) ↔
          Blocks data k) ∧
        (WellFormed data → ¬ Blocks data k)) ∧
    ∀ k, Halts data k →
      IndexSpace.offset (ofBytes data) (k + 1 : Nat) (-(1 : Nat)) = .ok (k : Int) := by
  refine ⟨?_, ?_, fun k hhalts => offset_back_to_halt hhalts⟩
  · intro fault h
    have hoffset : (ofBytes data).offset i (-(n : Int)) = .error fault := h
    have hwalk := (ofBytes data).walk_eq_offset i (-(n : Int))
    rw [hoffset, walk, if_neg (by omega)] at hwalk
    exact (ofBytes data).fault_of_backward (by rw [size_ofBytes]; omega) hwalk
  · intro target h
    have hoffset : (ofBytes data).offset i (-(n : Int)) = .ok target := h
    obtain ⟨before, rfl⟩ : ∃ before, n = before + 1 := ⟨n - 1, by omega⟩
    rw [offset_eq_stepTimes, stepToward, if_neg (by omega), Int.natAbs_neg,
      Int.natAbs_natCast] at hoffset
    obtain ⟨near, hnear, hlast⟩ := stepTimes_succ_eq_ok_iff.1 hoffset
    have hback := (ofBytes data).leadsOnBy_retreat.add_le hnear
    obtain ⟨k, rfl, hk, hhalts⟩ := exists_halt_of_retreat (by omega) hlast
    exact ⟨k, by omega, rfl, hhalts, after_malformed_iff,
      fun hdata => not_blocks_of_wellFormed hdata hhalts⟩

/-- FF begins no character, and yet the walk back from behind it arrives there. -/
theorem offset_back_malformed_iff_noLead :
    1 ≤ [(0xFF : UInt8), 0x41].length ∧ 0 < 1 ∧
    ∃ k : Nat, k < 1 ∧ (0 : Int) = k ∧ Halts [0xFF, 0x41] k ∧
      ((∃ stretch, IndexSpace.after (ofBytes [0xFF, 0x41]) 0 = .error (.malformed stretch)) ↔
        Blocks [0xFF, 0x41] k) ∧
      (WellFormed [0xFF, 0x41] → ¬ Blocks [0xFF, 0x41] k) := by
  have hi : 1 ≤ [(0xFF : UInt8), 0x41].length := by decide
  have hn : 0 < 1 := by decide
  exact ⟨hi, hn, (offset_back_malformed_iff [0xFF, 0x41] hi hn).2.1 0 rfl⟩

/-- One step back from the letter in FF 41 leads to the byte FF, from which no step forward
leads. -/
theorem offset_back_malformed :
    ¬ ∀ target, IndexSpace.offset (ofBytes [0xFF, 0x41]) (1 : Nat) (-(1 : Nat)) = .ok target →
      ¬ ∃ stretch, IndexSpace.after (ofBytes [0xFF, 0x41]) target =
        .error (.malformed stretch) := by
  intro hpasses
  exact hpasses 0 rfl ⟨_, rfl⟩

end ScalarView

end Scanning
