import Scanning.Proofs.Layout.Offset
import Scanning.Proofs.ScalarView.Steps

namespace Scanning

open IndexSpace Utf8

variable {σ ε : Type} [IndexSpace σ ε]

/-- The limit does not lie behind the start of a walk of that distance. -/
def Ahead (distance start limit : Int) : Prop :=
  0 ≤ distance ∧ start ≤ limit ∨ distance < 0 ∧ limit ≤ start

/-- For a walk of that distance, the index lies on the far side of the limit. -/
def Beyond (distance limit index : Int) : Prop :=
  0 ≤ distance ∧ limit < index ∨ distance < 0 ∧ index < limit

/-- One of the steps of the walk begins in front of the limit and ends beyond it. -/
def StepsOver (subject : σ) (start distance limit : Int) : Prop :=
  ∃ count < distance.natAbs, ∃ near far : Int,
    offset subject start (distance.sign * count) = .ok near ∧
    offset subject start (distance.sign * (count + 1 : Nat)) = .ok far ∧
    Beyond distance near limit ∧ Beyond distance limit far

/-- Over a plain sequence a walk never gets beyond a limit that is not behind its start. -/
theorem Sequence.not_beyond {sequence : Sequence ε} {start distance limit target : Int}
    (hahead : Ahead distance start limit)
    (h : offsetLimited sequence start distance limit = .ok (some target)) :
    ¬ Beyond distance limit target := by
  have h : sequence.offsetLimited start distance limit = .ok (some target) := h
  unfold Sequence.offsetLimited at h
  split at h
  · cases h
  split at h
  · cases h
  obtain ⟨found, hoffset, hfound⟩ := Fault.map_eq_ok.1 h
  cases hfound
  unfold Sequence.offset at hoffset
  split at hoffset
  · cases hoffset
    unfold Ahead Beyond at *
    omega
  · cases hoffset

/-- Between neighbouring elements there is no place of a third one to step over. -/
theorem Layout.not_stepsOver {subject : σ} {elements : List ε} {place : Nat → Nat} {k limit : Nat}
    (layout : Layout subject elements place) (hk : k ≤ elements.length)
    (hlimit : limit ≤ elements.length) (distance : Int) :
    ¬ StepsOver subject (place k) distance (place limit) := by
  rintro ⟨count, hcount, near, far, hnear, hfar, hbefore, hbehind⟩
  obtain ⟨i, hi, hplace, rfl⟩ := (layout.offset_eq_ok_iff hk).1 hnear
  obtain ⟨j, hj, hplace', rfl⟩ := (layout.offset_eq_ok_iff hk).1 hfar
  have hneighbours : 0 ≤ distance ∧ j = i + 1 ∨ distance < 0 ∧ i = j + 1 := by
    rcases Int.lt_or_le distance 0 with hneg | hpos
    · rw [Int.sign_eq_neg_one_of_neg hneg] at hplace hplace'
      omega
    · rw [Int.sign_eq_one_of_pos (by omega)] at hplace hplace'
      omega
  have hmonotone (a b : Nat) (hab : a ≤ b) (hb : b ≤ elements.length) := layout.place_le hab hb
  unfold Beyond at hbefore hbehind
  obtain ⟨hpos, rfl⟩ | ⟨hneg, rfl⟩ := hneighbours
  · by_cases hle : limit ≤ i
    · have := hmonotone limit i hle hi
      omega
    · have := hmonotone (i + 1) limit (by omega) hlimit
      omega
  · by_cases hle : limit ≤ j
    · have := hmonotone limit j hle hj
      omega
    · have := hmonotone (j + 1) limit (by omega) hlimit
      omega

namespace ScalarView

variable {view : ScalarView} {start distance limit target : Int}

/-- How far on an index is for a walk of that distance. -/
def onward (distance index : Int) : Int := if 0 ≤ distance then index else -index

theorem ahead_iff : Ahead distance start limit ↔ onward distance start ≤ onward distance limit := by
  unfold Ahead onward
  split <;> omega

theorem beyond_iff :
    Beyond distance limit target ↔ onward distance limit < onward distance target := by
  unfold Beyond onward
  split <;> omega

/-- In either direction every step of a walk leads farther on. -/
theorem leadsOnBy_stepToward (view : ScalarView) (distance : Int) :
    LeadsOnBy (view.stepToward distance) (onward distance) := by
  by_cases hforward : 0 ≤ distance
  · have honward : onward distance = fun index => index := funext fun _ => if_pos hforward
    rw [stepToward, if_pos hforward, honward]
    exact view.leadsOnBy_after
  · have honward : onward distance = fun index => -index := funext fun _ => if_neg hforward
    rw [stepToward, if_neg hforward, honward]
    exact view.leadsOnBy_retreat

/-- The stops of a walk are the indices some of its steps away. -/
theorem offset_sign_mul {count : Nat} (hcount : count ≤ distance.natAbs) :
    view.offset start (distance.sign * count) =
      stepTimes (view.stepToward distance) count start := by
  rw [offset_eq_stepTimes]
  cases count with
  | zero => simp [stepTimes]
  | succ count =>
    rcases Int.lt_or_le distance 0 with hneg | hpos
    · rw [Int.sign_eq_neg_one_of_neg hneg, stepToward, stepToward, if_neg (by omega),
        if_neg (by omega), show (-1 * ((count + 1 : Nat) : Int)).natAbs = count + 1 by omega]
    · rw [Int.sign_eq_one_of_pos (by omega), stepToward, stepToward, if_pos (by omega),
        if_pos (by omega), show (1 * ((count + 1 : Nat) : Int)).natAbs = count + 1 by omega]

/-- A walk steps over its limit where one of its stops is not as far on and the next one is
farther. -/
theorem stepsOver_iff : StepsOver view start distance limit ↔
    ∃ count < distance.natAbs, ∃ near far : Int,
      stepTimes (view.stepToward distance) count start = .ok near ∧
      stepTimes (view.stepToward distance) (count + 1) start = .ok far ∧
      onward distance near < onward distance limit ∧
      onward distance limit < onward distance far := by
  refine exists_congr fun count => and_congr_right fun hcount => ?_
  refine exists_congr fun near => exists_congr fun far => ?_
  rw [← offset_sign_mul (by omega), ← offset_sign_mul (by omega), ← beyond_iff, ← beyond_iff]
  rfl

/-- A walk gets beyond a limit in front of it only over a view, and there exactly if it would get to
the same index without the limit and steps over it. From the offset of a character it steps over no
other such offset. -/
theorem offsetLimited_beyond_iff (view : ScalarView) {start distance limit : Int}
    (hahead : Ahead distance start limit) (target : Int) :
    (offsetLimited view start distance limit = .ok (some target) ∧ Beyond distance limit target ↔
      IndexSpace.offset view start distance = .ok target ∧ StepsOver view start distance limit) ∧
    (∀ {ε : Type} (sequence : Sequence ε),
      offsetLimited sequence start distance limit = .ok (some target) →
      ¬ Beyond distance limit target) ∧
    ∀ (text : String) (i j : Nat), i ≤ text.length → j ≤ text.length →
      ¬ StepsOver (ofText text) (byteOffset text.toList i) distance (byteOffset text.toList j) := by
  refine ⟨?_, fun sequence h => sequence.not_beyond hahead h, ?_⟩
  · have hlimited : offsetLimited view start distance limit =
        stepUntil (view.stepToward distance) (some limit) distance.natAbs start :=
      view.walk_eq_stepUntil start distance (some limit)
    have hoffset : IndexSpace.offset view start distance =
        stepTimes (view.stepToward distance) distance.natAbs start :=
      view.offset_eq_stepTimes start distance
    rw [hlimited, hoffset, beyond_iff, stepsOver_iff]
    exact (view.leadsOnBy_stepToward distance).stepUntil_beyond_iff (ahead_iff.1 hahead)
  · intro text i j hi hj
    rw [← String.length_toList] at hi hj
    exact (layout_encoding text.toList).not_stepsOver hi hj distance

/-- The bytes C3 A9 are a single character, and the limit lies between them. -/
theorem offsetLimited_beyond_iff_insideCharacter :
    Ahead 1 0 1 ∧
    (offsetLimited (ofText "é") 0 1 1 = .ok (some 2) ∧ Beyond 1 1 2 ↔
      IndexSpace.offset (ofText "é") 0 1 = .ok 2 ∧ StepsOver (ofText "é") 0 1 1) ∧
    StepsOver (ofText "é") 0 1 1 := by
  have hahead : Ahead 1 0 1 := .inl ⟨by decide, by decide⟩
  have hbeyond : Beyond 1 1 2 := .inl ⟨by decide, by decide⟩
  have hiff := (offsetLimited_beyond_iff (ofText "é") hahead 2).1
  exact ⟨hahead, hiff, (hiff.1 ⟨rfl, hbeyond⟩).2⟩

/-- One step over that character gets beyond the limit, although both its ends and the limit lie
within the view. -/
theorem offsetLimited_beyond :
    ¬ (Within (ofText "é") 0 → Within (ofText "é") 1 → Ahead 1 0 1 →
      ∀ target, offsetLimited (ofText "é") 0 1 1 = .ok (some target) → ¬ Beyond 1 1 target) := by
  intro hheld
  have hend : endIndex (ofText "é") = 2 := rfl
  have hwithin (index : Int) (hindex : 0 ≤ index ∧ index ≤ 2) : Within (ofText "é") index := by
    unfold Within
    omega
  exact hheld (hwithin 0 (by decide)) (hwithin 1 (by decide)) (.inl ⟨by decide, by decide⟩) 2 rfl
    (.inl ⟨by decide, by decide⟩)

end ScalarView

end Scanning
