import Scanning.CommandLine.File

namespace Scanning.CommandLine

/-- Where the character number `k` of the unified text comes from. A place never lies between the
two characters of a line end. -/
def sourceOffset : List Char → Nat → Nat
  | _, 0 => 0
  | [], _ => 0
  | '\r' :: '\n' :: rest, k + 1 => sourceOffset rest k + 2
  | _ :: rest, k + 1 => sourceOffset rest k + 1

variable {chars : List Char}

theorem length_unifyLineEnds_le (chars : List Char) :
    (unifyLineEnds chars).length ≤ chars.length := by
  fun_induction unifyLineEnds chars with
  | case1 => exact Nat.le_refl _
  | case2 rest ih | case3 _ rest _ ih =>
    simp only [List.length_cons]
    omega

theorem unifyLineEnds_cons {c : Char} (hc : c ≠ '\r') (rest : List Char) :
    unifyLineEnds (c :: rest) = c :: unifyLineEnds rest := by
  rw [unifyLineEnds]
  · rw [if_neg (by simpa using hc)]
  · rintro rest' rfl
    exact absurd rfl hc

/-- What stands in front of the first carriage return stays as it is. -/
theorem unifyLineEnds_append {front : List Char} (hfront : '\r' ∉ front) (rest : List Char) :
    unifyLineEnds (front ++ rest) = front ++ unifyLineEnds rest := by
  induction front with
  | nil => rfl
  | cons c front ih =>
    rw [List.mem_cons, not_or] at hfront
    rw [List.cons_append, unifyLineEnds_cons (Ne.symm hfront.1), ih hfront.2, List.cons_append]

/-- As far as there is no carriage return the unified text is the text. -/
theorem take_unifyLineEnds {k : Nat} (hk : k ≤ chars.length) (hfront : '\r' ∉ chars.take k) :
    (unifyLineEnds chars).take k = chars.take k := by
  have hunified := unifyLineEnds_append hfront (chars.drop k)
  rw [List.take_append_drop] at hunified
  rw [hunified, List.take_left' (List.length_take_of_le hk)]

/-- The unified text begins as the text does only if the text has no carriage return. -/
theorem not_mem_of_take_eq (h : chars.take (unifyLineEnds chars).length = unifyLineEnds chars) :
    '\r' ∉ chars := by
  fun_induction unifyLineEnds chars with
  | case1 => exact List.not_mem_nil
  | case2 rest ih => simp at h
  | case3 c rest hpair ih =>
    rw [List.length_cons, List.take_succ_cons, List.cons.injEq] at h
    obtain ⟨hc, hrest⟩ := h
    rw [List.mem_cons, not_or]
    refine ⟨?_, ih hrest⟩
    rintro rfl
    simp at hc

/-- The unified text up to a place is made of the text up to where that place comes from. -/
theorem take_sourceOffset (chars : List Char) (k : Nat) :
    unifyLineEnds (chars.take (sourceOffset chars k)) = (unifyLineEnds chars).take k := by
  fun_induction sourceOffset chars k with
  | case1 | case2 => simp [unifyLineEnds]
  | case3 rest k ih => simp [unifyLineEnds, ih]
  | case4 c rest k hpair ih =>
    -- Cutting the rest off does not bring a newline behind the carriage return either.
    have hpair' : ∀ others, c = '\r' → rest.take (sourceOffset rest k) = '\n' :: others → False := by
      intro others hc htake
      have hrest := List.take_append_drop (sourceOffset rest k) rest
      rw [htake, List.cons_append] at hrest
      exact hpair _ hc hrest.symm
    rw [List.take_succ_cons, unifyLineEnds, unifyLineEnds, List.take_succ_cons, ih]
    · exact hpair
    · exact hpair'

/-- The unified text from a place on is made of the text from where that place comes from. -/
theorem drop_sourceOffset (chars : List Char) (k : Nat) :
    unifyLineEnds (chars.drop (sourceOffset chars k)) = (unifyLineEnds chars).drop k := by
  fun_induction sourceOffset chars k with
  | case1 | case2 => simp [unifyLineEnds]
  | case3 rest k ih => simp [unifyLineEnds, ih]
  | case4 c rest k hpair ih =>
    rw [List.drop_succ_cons, unifyLineEnds, List.drop_succ_cons, ih]
    exact hpair

/-- Places behind a place come from behind where it comes from. -/
theorem sourceOffset_add (chars : List Char) (k m : Nat) :
    sourceOffset chars (k + m) =
      sourceOffset chars k + sourceOffset (chars.drop (sourceOffset chars k)) m := by
  fun_induction sourceOffset chars k with
  | case1 => simp
  | case2 => cases m <;> simp [sourceOffset]
  | case3 rest k ih =>
    rw [Nat.succ_add, sourceOffset, ih]
    simp
    omega
  | case4 c rest k hpair ih =>
    rw [Nat.succ_add, sourceOffset, ih]
    · simp
      omega
    · exact hpair

/-- A piece of the unified text is what its piece of the file becomes. -/
theorem unifyLineEnds_piece (chars : List Char) {start stop : Nat} (h : start ≤ stop) :
    unifyLineEnds ((chars.take (sourceOffset chars stop)).drop (sourceOffset chars start)) =
      ((unifyLineEnds chars).take stop).drop start := by
  obtain ⟨size, rfl⟩ := Nat.exists_eq_add_of_le h
  rw [sourceOffset_add, List.drop_take, Nat.add_sub_cancel_left, take_sourceOffset,
    drop_sourceOffset, List.drop_take, Nat.add_sub_cancel_left]

end Scanning.CommandLine
