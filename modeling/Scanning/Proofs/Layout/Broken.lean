import Scanning.Proofs.Layout.Taking

namespace Scanning

open IndexSpace

variable {σ τ ε : Type} [IndexSpace σ ε]

/-- A subject begins with the elements of the list, and behind the last of them, where it does not
end, the next element is refused. -/
structure Broken (subject : σ) (elements : List ε) (place : Nat → Nat) (fault : Fault) : Prop
    extends Begins subject elements place where
  break_ne_end : (place elements.length : Int) ≠ endIndex subject
  elementAt_break : elementAt subject (place elements.length) = .error fault

namespace Broken

variable {subject : σ} {elements : List ε} {place : Nat → Nat} {fault : Fault} {k : Nat}
  {memory : τ}

/-- No place of the list is the end of the subject. -/
theorem ne_end (broken : Broken subject elements place fault) (hk : k ≤ elements.length) :
    (place k : Int) ≠ endIndex subject := by
  by_cases hbreak : k = elements.length
  · rw [hbreak]
    exact broken.break_ne_end
  · exact broken.place_ne_end k (by omega)

/-- The element at the break cannot be taken. -/
theorem takeAt_break (broken : Broken subject elements place fault) :
    takeAt subject (place elements.length) = .error fault := by
  rw [takeAt, if_neg broken.break_ne_end, broken.elementAt_break]
  rfl

/-- The element at the break cannot be looked at either, and nothing moves. -/
theorem peek_break (broken : Broken subject elements place fault) :
    Move.peek subject ⟨place elements.length, memory⟩ =
      .error fault ⟨place elements.length, memory⟩ := by
  simp only [Move.peek, Move.look]
  rw [if_neg broken.break_ne_end, broken.elementAt_break]
  rfl

/-- Looking at the last element and the one behind it looks over the break. -/
theorem peek2_eq (broken : Broken subject elements place fault) (hk : k < elements.length) :
    Move.peek2 subject ⟨place k, memory⟩ =
      if k + 1 = elements.length then .error fault ⟨place k, memory⟩
      else .ok (firstTwo (elements.drop k)) ⟨place k, memory⟩ := by
  simp only [Move.peek2, Move.look]
  rw [if_neg (broken.ne_end (by omega)), broken.after_place k hk]
  dsimp only [bind, Except.bind]
  rw [if_neg (broken.ne_end (by omega)), broken.elementAt_place k hk]
  dsimp only
  by_cases hlast : k + 1 = elements.length
  · rw [if_pos hlast, hlast, broken.elementAt_break]
  · rw [if_neg hlast, broken.elementAt_place (k + 1) (by omega), List.drop_eq_getElem_cons hk,
      List.drop_eq_getElem_cons (by omega)]
    rfl

/-- Comparing with a prefix is refused at the break, if it comes so far. -/
theorem prefixEnd_eq [BEq ε] (broken : Broken subject elements place fault)
    (hk : k ≤ elements.length) (expected : List ε) :
    prefixEnd subject (place k) expected = .error fault ∨
      prefixEnd subject (place k) expected =
        .ok (if goesOn (elements.drop k) expected then some (place (k + expected.length) : Int)
          else none) := by
  induction expected generalizing k with
  | nil =>
    cases elements.drop k <;> exact .inr rfl
  | cons first others ih =>
    by_cases hbreak : k = elements.length
    · rw [prefixEnd, if_neg (broken.ne_end hk), hbreak, broken.elementAt_break]
      exact .inl rfl
    rw [broken.prefixEnd_cons (by omega), List.drop_eq_getElem_cons (by omega), goesOn]
    by_cases hsame : (elements[k] == first) = true
    · rw [if_pos hsame, hsame, Bool.true_and, List.length_cons,
        show k + (others.length + 1) = k + 1 + others.length by omega]
      exact ih (by omega)
    · rw [if_neg hsame, Bool.eq_false_iff.2 hsame, Bool.false_and, if_neg Bool.false_ne_true]
      exact .inr rfl

/-- A run that every element continues comes to the break; another one ends short of it. -/
theorem advanceOver_eq (broken : Broken subject elements place fault) (hk : k ≤ elements.length)
    (inClass : ε → Bool) :
    Move.advanceOver inClass subject ⟨place k, memory⟩ =
      if k + ((elements.drop k).takeWhile inClass).length = elements.length then
        .error fault ⟨place elements.length, memory⟩
      else .ok () ⟨place (k + ((elements.drop k).takeWhile inClass).length), memory⟩ := by
  obtain ⟨room, hroom⟩ : ∃ room, elements.length - k = room := ⟨_, rfl⟩
  induction room generalizing k with
  | zero =>
    obtain rfl : k = elements.length := by omega
    rw [Move.advanceOver, Move.advanceWhile, Move.runFrom,
      if_neg (broken.break_ne_end), broken.elementAt_break, List.drop_length,
      if_pos (show elements.length + ([].takeWhile inClass).length = elements.length from rfl)]
  | succ room ih =>
    have htest : (return inClass elements[k] : EStateM Fault τ Bool) memory =
        .ok (inClass elements[k]) memory := rfl
    have hnext : Move.advanceOver inClass subject ⟨place k, memory⟩ = _ :=
      broken.advanceWhile_next (by omega) fun x => return inClass x
    rw [hnext, htest, List.drop_eq_getElem_cons (by omega), List.takeWhile_cons]
    cases inClass elements[k] with
    | false =>
      dsimp only
      rw [if_neg Bool.false_ne_true, if_neg (by rw [List.length_nil]; omega)]
      rfl
    | true =>
      dsimp only
      rw [if_pos rfl, List.length_cons,
        show k + (((elements.drop (k + 1)).takeWhile inClass).length + 1) =
          k + 1 + ((elements.drop (k + 1)).takeWhile inClass).length by omega]
      exact ih (by omega) (by omega)

end Broken

end Scanning
