import Scanning.Proofs.ScalarView.Walk

namespace Scanning.ScalarView

open Utf8

variable {chars : List Char} {k : Nat}

/-- A walk by the difference of two numbers leads from the one character to the other. -/
theorem offset_encoding {target : Nat} (hk : k ≤ chars.length) (htarget : target ≤ chars.length) :
    (encoding chars).offset (byteOffset chars k) (target - k) = .ok (byteOffset chars target) := by
  have hwalk : (encoding chars).walk (byteOffset chars k) (target - k) none =
      .ok (some (byteOffset chars target)) := by
    rw [walk]
    by_cases hforward : k ≤ target
    · rw [if_pos (by omega), show ((target : Int) - k).toNat = target - k by omega,
        forward_encoding (by omega), Nat.add_sub_cancel' hforward]
    · rw [if_neg (by omega), show (-((target : Int) - k)).toNat = k - target by omega,
        backward_encoding hk (by omega), Nat.sub_sub_self (by omega)]
  rw [offset, hwalk]
  rfl

/-- A walk that would leave the characters is refused, and not for the bytes. -/
theorem offset_encoding_outside (hk : k ≤ chars.length) {distance : Int}
    (hout : k + distance < 0 ∨ chars.length < k + distance) :
    ∃ cause, (encoding chars).offset (byteOffset chars k) distance =
      .error (.outOfBounds cause) := by
  have hwalk : ∃ cause, (encoding chars).walk (byteOffset chars k) distance none =
      .error (.outOfBounds cause) := by
    rw [walk]
    by_cases hforward : 0 ≤ distance
    · rw [if_pos hforward]
      exact forward_encoding_outside hk (by omega)
    · rw [if_neg hforward]
      exact backward_encoding_outside hk (by omega)
  obtain ⟨cause, hwalk⟩ := hwalk
  refine ⟨cause, ?_⟩
  rw [offset, hwalk]
  rfl

/-- A walk with a limit is the walk without it, unless it crosses the limit. -/
theorem walk_encoding_limit {limit : Nat} (hk : k ≤ chars.length)
    (hlimit : limit ≤ chars.length) (distance : Int) :
    (encoding chars).walk (byteOffset chars k) distance (some (byteOffset chars limit)) =
      if Crosses k distance limit then .ok none
      else some <$> (encoding chars).offset (byteOffset chars k) distance := by
  rw [← walk_eq_offset, walk, walk]
  by_cases hforward : 0 ≤ distance
  · rw [if_pos hforward, if_pos hforward, forward_encoding_limit hk hlimit]
    by_cases hcross : k ≤ limit ∧ limit < k + distance.toNat
    · rw [if_pos hcross, if_pos (.inl ⟨hforward, by omega, by omega⟩)]
    · rw [if_neg hcross, if_neg]
      rintro (h | h) <;> omega
  · rw [if_neg hforward, if_neg hforward, backward_encoding_limit hk hlimit]
    by_cases hcross : limit ≤ k ∧ k < limit + (-distance).toNat
    · rw [if_pos hcross, if_pos (.inr ⟨by omega, by omega, by omega⟩)]
    · rw [if_neg hcross, if_neg]
      rintro (h | h) <;> omega

/-- The places of an encoded text are the byte offsets of its characters. -/
theorem layout_encoding (chars : List Char) :
    Layout (encoding chars) chars (byteOffset chars) where
  place_zero := rfl
  place_length := (size_encoding chars).symm
  place_lt_succ _ hk := byteOffset_lt_succ hk
  after_place _ hk := after_encoding hk
  elementAt_place _ hk := elementAt_encoding hk
  slice_place i j _ _ := slice_encoding i j
  offset_place _ _ hk htarget := offset_encoding hk htarget
  offset_outside _ hk _ hout := offset_encoding_outside hk hout
  offsetLimited_place _ _ hk hlimit distance := walk_encoding_limit hk hlimit distance

end Scanning.ScalarView
