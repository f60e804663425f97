import Scanning.Sequence

namespace Scanning

open IndexSpace

theorem resolveIndex_natCast {size k : Nat} (hk : k < size) : resolveIndex size k = some k := by
  simp only [resolveIndex, if_neg (show ¬ (k : Int) < 0 by omega)]
  rw [if_pos ⟨by omega, by omega⟩, Int.toNat_natCast]

/-- Between bounds that count from the start, a slice is what lies in between. -/
theorem sliceBetween_natCast {α : Type} (elements : Array α) (i j : Nat) :
    sliceBetween elements i j = (elements.toList.take j).drop i := by
  have hclamp (k : Nat) : clampIndex elements.size k = min k elements.size := by
    rw [clampIndex, if_neg (by omega), Int.toNat_natCast]
  rw [sliceBetween, hclamp, hclamp, Array.toList_extract, List.extract_eq_take_drop,
    ← List.drop_take, ← Array.length_toList, ← List.take_take, List.take_length]
  by_cases hi : i ≤ elements.toList.length
  · rw [Nat.min_eq_left hi]
  · rw [Nat.min_eq_right (by omega), List.drop_eq_nil_of_le, List.drop_eq_nil_of_le]
    all_goals rw [List.length_take]; omega

/-- A function that grows at each step up to a bound grows between any two numbers up to it. -/
theorem lt_of_lt_succ {f : Nat → Nat} {bound : Nat} (hstep : ∀ k < bound, f k < f (k + 1))
    {i j : Nat} (hij : i < j) (hj : j ≤ bound) : f i < f j := by
  induction j with
  | zero => omega
  | succ j ih =>
    have hlast := hstep j (by omega)
    by_cases hi : i = j
    · rw [hi]
      exact hlast
    · have hbefore := ih (by omega) (by omega)
      omega

/-- The text behind a piece at its front. -/
theorem drop_add_of_drop_eq {α : Type} {elements piece rest : List α} {k : Nat}
    (h : elements.drop k = piece ++ rest) : elements.drop (k + piece.length) = rest := by
  rw [← List.drop_drop, h, List.drop_left]

theorem add_length_le_of_drop_eq {α : Type} {elements piece rest : List α} {k : Nat}
    (hk : k ≤ elements.length) (h : elements.drop k = piece ++ rest) :
    k + piece.length ≤ elements.length := by
  have hlength := congrArg List.length h
  rw [List.length_drop, List.length_append] at hlength
  omega

theorem lt_length_of_drop_eq {α : Type} {elements rest : List α} {first : α} {k : Nat}
    (h : elements.drop k = first :: rest) : k < elements.length := by
  have hlength := congrArg List.length h
  rw [List.length_drop, List.length_cons] at hlength
  omega

variable {σ ε : Type} [IndexSpace σ ε]

/-- The elements of a subject are at first those of the list, and the element number `k` begins at
the index `place k`. What the subject is behind them is left open. -/
structure Begins (subject : σ) (elements : List ε) (place : Nat → Nat) : Prop where
  place_ne_end : ∀ k < elements.length, (place k : Int) ≠ endIndex subject
  after_place : ∀ k < elements.length, after subject (place k) = .ok (place (k + 1))
  elementAt_place : ∀ (k : Nat) (hk : k < elements.length),
    elementAt subject (place k) = .ok elements[k]
  slice_place : ∀ i j, i ≤ elements.length → j ≤ elements.length →
    slice subject (place i) (place j) = .ok ((elements.take j).drop i)

/-- The slice of a piece is the piece. -/
theorem Begins.slice_piece {subject : σ} {elements piece rest : List ε} {place : Nat → Nat}
    {k : Nat} (begins : Begins subject elements place) (hk : k ≤ elements.length)
    (h : elements.drop k = piece ++ rest) :
    slice subject (place k) (place (k + piece.length)) = .ok piece := by
  rw [begins.slice_place k _ hk (add_length_le_of_drop_eq hk h), List.drop_take,
    Nat.add_sub_cancel_left, h, List.take_left]

/-- Whether a walk of that distance from the element number `start` meets the limit before it is
over. The limit counts only in the direction of travel. -/
def Crosses (start distance limit : Int) : Prop :=
  0 ≤ distance ∧ start ≤ limit ∧ limit < start + distance ∨
    distance < 0 ∧ start + distance < limit ∧ limit ≤ start

instance (start distance limit : Int) : Decidable (Crosses start distance limit) :=
  inferInstanceAs (Decidable (_ ∨ _))

/-- The elements of a subject are those of a list, and the element number `k` begins at the index
`place k`. The place behind the last element is the end of the subject. -/
structure Layout (subject : σ) (elements : List ε) (place : Nat → Nat) : Prop where
  place_zero : place 0 = 0
  place_length : place elements.length = endIndex subject
  place_lt_succ : ∀ k < elements.length, place k < place (k + 1)
  after_place : ∀ k < elements.length, after subject (place k) = .ok (place (k + 1))
  elementAt_place : ∀ (k : Nat) (hk : k < elements.length),
    elementAt subject (place k) = .ok elements[k]
  slice_place : ∀ i j, i ≤ elements.length → j ≤ elements.length →
    slice subject (place i) (place j) = .ok ((elements.take j).drop i)
  offset_place : ∀ k target : Nat, k ≤ elements.length → target ≤ elements.length →
    offset subject (place k) (target - k) = .ok (place target)
  offset_outside : ∀ k ≤ elements.length, ∀ distance : Int,
    k + distance < 0 ∨ elements.length < k + distance →
    ∃ cause, offset subject (place k) distance = .error (.outOfBounds cause)
  offsetLimited_place : ∀ k limit : Nat, k ≤ elements.length → limit ≤ elements.length →
    ∀ distance, offsetLimited subject (place k) distance (place limit) =
      if Crosses k distance limit then .ok none else some <$> offset subject (place k) distance

namespace Layout

variable {subject : σ} {elements : List ε} {place : Nat → Nat}

theorem place_lt (layout : Layout subject elements place) {i j : Nat} (hij : i < j)
    (hj : j ≤ elements.length) : place i < place j :=
  lt_of_lt_succ layout.place_lt_succ hij hj

theorem place_le (layout : Layout subject elements place) {i j : Nat} (hij : i ≤ j)
    (hj : j ≤ elements.length) : place i ≤ place j := by
  by_cases h : i = j
  · exact Nat.le_of_eq (congrArg place h)
  · exact Nat.le_of_lt (layout.place_lt (by omega) hj)

/-- Only the place behind the last element is the end. -/
theorem place_eq_end_iff (layout : Layout subject elements place) {k : Nat}
    (hk : k ≤ elements.length) : (place k : Int) = endIndex subject ↔ k = elements.length := by
  rw [← layout.place_length]
  constructor
  · intro hplace
    by_cases h : k = elements.length
    · exact h
    · have hlt := layout.place_lt (show k < elements.length by omega) (Nat.le_refl _)
      omega
  · rintro rfl
    rfl

theorem place_ne_end (layout : Layout subject elements place) {k : Nat}
    (hk : k < elements.length) : (place k : Int) ≠ endIndex subject := by
  rw [ne_eq, layout.place_eq_end_iff (by omega)]
  omega

theorem place_le_end (layout : Layout subject elements place) {k : Nat}
    (hk : k ≤ elements.length) : (place k : Int) ≤ endIndex subject := by
  have h := layout.place_le hk (Nat.le_refl _)
  rw [← layout.place_length]
  omega

/-- A subject that is laid out as a list begins with it. -/
theorem begins (layout : Layout subject elements place) : Begins subject elements place where
  place_ne_end _ hk := layout.place_ne_end hk
  after_place := layout.after_place
  elementAt_place := layout.elementAt_place
  slice_place := layout.slice_place

/-- The slice between the places around a piece is the piece. -/
theorem slice_piece {piece rest : List ε} {k : Nat} (layout : Layout subject elements place)
    (hk : k ≤ elements.length) (h : elements.drop k = piece ++ rest) :
    slice subject (place k) (place (k + piece.length)) = .ok piece :=
  layout.begins.slice_piece hk h

end Layout

/-- A plain sequence counts its elements. -/
theorem Sequence.layout (sequence : Sequence ε) :
    Layout sequence sequence.elements.toList id where
  place_zero := rfl
  place_length := Array.length_toList
  place_lt_succ k _ := Nat.lt_succ_self k
  after_place k hk := by
    have hk : k < sequence.elements.size := hk
    change sequence.after k = _
    rw [Sequence.after, if_pos ⟨by omega, by omega⟩]
    rfl
  elementAt_place k hk := by
    have hk : k < sequence.elements.size := hk
    change sequence.elementAt k = _
    rw [Sequence.elementAt, resolveIndex_natCast hk]
    simp [hk]
  slice_place i j _ _ := congrArg Except.ok (sliceBetween_natCast sequence.elements i j)
  offset_place k target hk ht := by
    have ht : target ≤ sequence.elements.size := ht
    change sequence.offset k (target - k) = _
    rw [Sequence.offset, if_pos ⟨by omega, by omega⟩]
    have htarget : (k : Int) + (target - k) = target := by omega
    rw [htarget]
    rfl
  offset_outside k hk distance hout := by
    have hout : k + distance < 0 ∨ sequence.elements.size < k + distance := hout
    change ∃ cause, sequence.offset k distance = _
    rw [Sequence.offset, if_neg (by omega)]
    exact ⟨_, rfl⟩
  offsetLimited_place k limit hk hlimit distance := by
    change sequence.offsetLimited k distance limit =
      if Crosses k distance limit then _ else some <$> sequence.offset k distance
    rw [Sequence.offsetLimited]
    by_cases hforward : 0 ≤ distance ∧ (k : Int) ≤ limit ∧ (limit : Int) < k + distance
    · rw [if_pos hforward, if_pos (.inl hforward)]
    rw [if_neg hforward]
    by_cases hback : distance < 0 ∧ (k : Int) + distance < limit ∧ (limit : Int) ≤ k
    · rw [if_pos hback, if_pos (.inr hback)]
    · rw [if_neg hback, if_neg (c := Crosses k distance limit) (not_or.2 ⟨hforward, hback⟩)]

end Scanning
