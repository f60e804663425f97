import Scanning.Proofs.ScalarView.Encoded

namespace Scanning.ScalarView

open Utf8

section Steps

variable {view : ScalarView} {limit : Option Int} {index : Int} (steps : Nat)

theorem forward_met : view.forward (some index) (steps + 1) index = .ok none := by
  rw [forward, if_pos rfl]
  rfl

theorem forward_succ (hpass : limit ≠ some index) :
    view.forward limit (steps + 1) index = view.after index >>= view.forward limit steps := by
  rw [forward, if_neg hpass]

theorem backward_met : view.backward (some index) (steps + 1) index = .ok none := by
  rw [backward, if_pos rfl]
  rfl

theorem backward_start (hpass : limit ≠ some index) (hstart : index ≤ 0) :
    view.backward limit (steps + 1) index = .error (.outOfBounds .beforeStart) := by
  rw [backward, if_neg hpass]
  dsimp only
  rw [if_pos hstart]
  rfl

theorem backward_succ (hpass : limit ≠ some index) (hpos : 0 < index) :
    view.backward limit (steps + 1) index = view.before index >>= view.backward limit steps := by
  rw [backward, if_neg hpass]
  dsimp only
  rw [if_neg (by omega)]

/-- Without a limit a walk arrives somewhere or fails. -/
theorem forward_ne_none : view.forward none steps index ≠ .ok none := by
  induction steps generalizing index with
  | zero => simp [forward]
  | succ steps ih =>
    rw [forward_succ steps (by simp)]
    cases view.after index with
    | error fault => simp [bind, Except.bind]
    | ok next => exact ih

/-- Without a limit a walk back never gives nothing. -/
theorem backward_ne_none : view.backward none steps index ≠ .ok none := by
  induction steps generalizing index with
  | zero => simp [backward]
  | succ steps ih =>
    by_cases hstart : index ≤ 0
    · rw [backward_start steps (by simp) hstart]
      simp
    · rw [backward_succ steps (by simp) (by omega)]
      cases view.before index with
      | error fault => simp [bind, Except.bind]
      | ok previous => exact ih

end Steps

/-- The index a distance away is where the walk without a limit arrives. -/
theorem walk_eq_offset (view : ScalarView) (index distance : Int) :
    view.walk index distance none = some <$> view.offset index distance := by
  have harrives : view.walk index distance none ≠ .ok none := by
    rw [walk]
    split
    · exact forward_ne_none _
    · exact backward_ne_none _
  rw [offset]
  cases hwalk : view.walk index distance none with
  | error fault => rfl
  | ok found =>
    cases found with
    | none => exact absurd hwalk harrives
    | some target => rfl

variable {chars : List Char} {k steps : Nat}

/-- A walk forward leads from the offset of a character to that of the one so many places on. -/
theorem forward_encoding (hroom : k + steps ≤ chars.length) :
    (encoding chars).forward none steps (byteOffset chars k) =
      .ok (some (byteOffset chars (k + steps))) := by
  induction steps generalizing k with
  | zero => rfl
  | succ steps ih =>
    rw [forward_succ steps (by simp), after_encoding (by omega)]
    refine (ih (by omega)).trans ?_
    rw [show k + 1 + steps = k + (steps + 1) by omega]

/-- A walk forward past the last character is refused. -/
theorem forward_encoding_outside (hk : k ≤ chars.length) (hout : chars.length < k + steps) :
    ∃ cause, (encoding chars).forward none steps (byteOffset chars k) =
      .error (.outOfBounds cause) := by
  induction steps generalizing k with
  | zero => omega
  | succ steps ih =>
    rw [forward_succ steps (by simp)]
    by_cases hend : k = chars.length
    · obtain ⟨cause, hafter⟩ := after_end_encoding chars
      rw [hend, hafter]
      exact ⟨cause, rfl⟩
    · rw [after_encoding (by omega)]
      exact ih (by omega) (by omega)

/-- A walk back leads from the offset of a character to that of the one so many places before. -/
theorem backward_encoding (hk : k ≤ chars.length) (hroom : steps ≤ k) :
    (encoding chars).backward none steps (byteOffset chars k) =
      .ok (some (byteOffset chars (k - steps))) := by
  induction steps generalizing k with
  | zero => rfl
  | succ steps ih =>
    obtain ⟨j, rfl⟩ : ∃ j, k = j + 1 := ⟨k - 1, by omega⟩
    have hpos := byteOffset_lt_succ (show j < chars.length by omega)
    rw [backward_succ steps (by simp) (by omega), before_encoding (by omega)]
    refine (ih (by omega) (by omega)).trans ?_
    rw [Nat.add_sub_add_right]

/-- A walk back past the first character is refused. -/
theorem backward_encoding_outside (hk : k ≤ chars.length) (hout : k < steps) :
    ∃ cause, (encoding chars).backward none steps (byteOffset chars k) =
      .error (.outOfBounds cause) := by
  induction steps generalizing k with
  | zero => omega
  | succ steps ih =>
    cases k with
    | zero => exact ⟨_, backward_start steps (by simp) (by simp)⟩
    | succ j =>
      have hpos := byteOffset_lt_succ (show j < chars.length by omega)
      rw [backward_succ steps (by simp) (by omega), before_encoding (by omega)]
      exact ih (by omega) (by omega)

/-- Different characters stand at different offsets. -/
theorem byteOffset_inj {limit : Nat} (hk : k ≤ chars.length) (hlimit : limit ≤ chars.length)
    (heq : byteOffset chars limit = byteOffset chars k) : limit = k := by
  have hstep (j : Nat) (hj : j < chars.length) := byteOffset_lt_succ hj
  rcases Nat.lt_trichotomy limit k with hlt | hlimit' | hgt
  · have := lt_of_lt_succ hstep hlt hk
    omega
  · exact hlimit'
  · have := lt_of_lt_succ hstep hgt hlimit
    omega

private theorem not_met {limit : Nat} (hk : k ≤ chars.length) (hlimit : limit ≤ chars.length)
    (hne : limit ≠ k) :
    some (byteOffset chars limit : Int) ≠ some (byteOffset chars k : Int) := by
  intro heq
  have hoffset : (byteOffset chars limit : Int) = byteOffset chars k := Option.some.inj heq
  exact hne (byteOffset_inj hk hlimit (by omega))

/-- A limit in front of the walk is met before the end of the text is. -/
theorem forward_encoding_limit {limit : Nat} (hk : k ≤ chars.length)
    (hlimit : limit ≤ chars.length) :
    (encoding chars).forward (some (byteOffset chars limit)) steps (byteOffset chars k) =
      if k ≤ limit ∧ limit < k + steps then .ok none
      else (encoding chars).forward none steps (byteOffset chars k) := by
  induction steps generalizing k with
  | zero =>
    rw [if_neg (by omega)]
    rfl
  | succ steps ih =>
    by_cases hmet : limit = k
    · rw [if_pos (by omega), hmet, forward_met]
    rw [forward_succ steps (not_met hk hlimit hmet), forward_succ steps (by simp)]
    by_cases hend : k = chars.length
    · obtain ⟨cause, hafter⟩ := after_end_encoding chars
      rw [if_neg (by omega), hend, hafter]
      rfl
    · rw [after_encoding (by omega)]
      refine (ih (by omega)).trans ?_
      by_cases hcross : k + 1 ≤ limit ∧ limit < k + 1 + steps
      · rw [if_pos hcross, if_pos (by omega)]
      · rw [if_neg hcross, if_neg (by omega)]
        rfl

/-- A limit behind the walk is met before the start of the text is. -/
theorem backward_encoding_limit {limit : Nat} (hk : k ≤ chars.length)
    (hlimit : limit ≤ chars.length) :
    (encoding chars).backward (some (byteOffset chars limit)) steps (byteOffset chars k) =
      if limit ≤ k ∧ k < limit + steps then .ok none
      else (encoding chars).backward none steps (byteOffset chars k) := by
  induction steps generalizing k with
  | zero =>
    rw [if_neg (by omega)]
    rfl
  | succ steps ih =>
    by_cases hmet : limit = k
    · rw [if_pos (by omega), hmet, backward_met]
    cases k with
    | zero =>
      rw [if_neg (by omega), backward_start steps (not_met hk hlimit hmet) (by simp),
        backward_start steps (by simp) (by simp)]
    | succ j =>
      have hpos := byteOffset_lt_succ (show j < chars.length by omega)
      rw [backward_succ steps (not_met hk hlimit hmet) (by omega),
        backward_succ steps (by simp) (by omega), before_encoding (by omega)]
      refine (ih (by omega)).trans ?_
      by_cases hcross : limit ≤ j ∧ j < limit + steps
      · rw [if_pos hcross, if_pos (by omega)]
      · rw [if_neg hcross, if_neg (by omega)]
        rfl

end Scanning.ScalarView
