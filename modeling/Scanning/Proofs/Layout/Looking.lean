import Scanning.Move.Progress
import Scanning.Proofs.Layout

namespace Scanning

open IndexSpace

variable {σ τ ε : Type}

namespace Move

variable {α β : Type} {move : Move σ τ α} {subject : σ} {standing standing' : Standing τ}

/-- A move that goes on after one that succeeds. -/
theorem bind_of_ok {f : α → Move σ τ β} {answer : α}
    (h : move subject standing = .ok answer standing') :
    (move >>= f) subject standing = f answer subject standing' := by
  simp only [bind, ReaderT.bind, EStateM.bind, h]

/-- A move that does not go on after one that fails. -/
theorem bind_of_error {f : α → Move σ τ β} {fault : Fault}
    (h : move subject standing = .error fault standing') :
    (move >>= f) subject standing = .error fault standing' := by
  simp only [bind, ReaderT.bind, EStateM.bind, h]

theorem map_of_error {f : α → β} {fault : Fault}
    (h : move subject standing = .error fault standing') :
    (f <$> move) subject standing = .error fault standing' := by
  simp only [Functor.map, EStateM.map, h]

end Move

variable [IndexSpace σ ε]

/-- The first two elements of a list, if it has two. -/
def firstTwo : List ε → Option (ε × ε)
  | a :: b :: _ => some (a, b)
  | _ => none

/-- The first three elements of a list, if it has three. -/
def firstThree : List ε → Option (ε × ε × ε)
  | a :: b :: c :: _ => some (a, b, c)
  | _ => none

theorem firstTwo_eq_some {elements : List ε} {a b : ε} (h : firstTwo elements = some (a, b)) :
    ∃ rest, elements = a :: b :: rest := by
  fun_cases firstTwo elements with
  | case1 a' b' rest =>
    cases h
    exact ⟨rest, rfl⟩
  | case2 => simp_all [firstTwo]

/-- Whether a list goes on with the expected elements. -/
def goesOn [BEq ε] : List ε → List ε → Bool
  | _, [] => true
  | [], _ :: _ => false
  | x :: rest, expected :: others => x == expected && goesOn rest others

theorem length_le_of_goesOn [BEq ε] {elements expected : List ε}
    (h : goesOn elements expected = true) : expected.length ≤ elements.length := by
  fun_induction goesOn elements expected with
  | case1 => exact Nat.zero_le _
  | case2 => cases h
  | case3 x rest first others ih =>
    have hrest := ih (Bool.and_eq_true _ _ ▸ h).2
    simp only [List.length_cons]
    omega

/-- A list goes on with the expected elements exactly if they are its front. -/
theorem goesOn_iff [BEq ε] [LawfulBEq ε] {elements expected : List ε} :
    goesOn elements expected = true ↔ expected <+: elements := by
  fun_induction goesOn elements expected with
  | case1 => simp
  | case2 => simp
  | case3 x rest first others ih =>
    rw [Bool.and_eq_true, beq_iff_eq, ih, List.cons_prefix_cons, eq_comm]

namespace Begins

variable {subject : σ} {elements : List ε} {place : Nat → Nat} {k : Nat} {memory : τ}

theorem peek_eq (begins : Begins subject elements place) (hk : k < elements.length) :
    Move.peek subject ⟨place k, memory⟩ = .ok (some elements[k]) ⟨place k, memory⟩ := by
  refine Move.look_eq_ok.2 ⟨?_, rfl⟩
  dsimp only
  rw [if_neg (begins.place_ne_end k hk), begins.elementAt_place k hk]
  rfl

/-- One element of a prefix is compared, and then those behind it. -/
theorem prefixEnd_cons [BEq ε] (begins : Begins subject elements place) (hk : k < elements.length)
    (first : ε) (others : List ε) :
    prefixEnd subject (place k) (first :: others) =
      if elements[k] == first then prefixEnd subject (place (k + 1)) others else .ok none := by
  rw [prefixEnd, if_neg (begins.place_ne_end k hk), begins.elementAt_place k hk]
  dsimp only [bind, Except.bind]
  rw [begins.after_place k hk]
  rfl

end Begins

namespace Layout

variable {subject : σ} {elements : List ε} {place : Nat → Nat} {k : Nat} {memory : τ}

theorem isAtEnd_eq (layout : Layout subject elements place) (hk : k ≤ elements.length) :
    Move.isAtEnd subject ⟨place k, memory⟩ =
      .ok (decide (k = elements.length)) ⟨place k, memory⟩ := by
  refine Move.look_eq_ok.2 ⟨?_, rfl⟩
  simp only [layout.place_eq_end_iff hk]

/-- What remains is what is left of the list. -/
theorem remainder_eq (layout : Layout subject elements place) (hk : k ≤ elements.length) :
    Move.remainder subject ⟨place k, memory⟩ = .ok (elements.drop k) ⟨place k, memory⟩ := by
  refine Move.look_eq_ok.2 ⟨?_, rfl⟩
  dsimp only
  rw [← layout.place_length, layout.slice_place k _ hk (Nat.le_refl _), List.take_length]

/-- What was consumed since a place is what lies between it and the cursor, and nothing if it lies
ahead. -/
theorem consumedSince_eq (layout : Layout subject elements place) {start : Nat}
    (hstart : start ≤ elements.length) (hk : k ≤ elements.length) :
    Move.consumedSince (place start) subject ⟨place k, memory⟩ =
      .ok ((elements.take k).drop start) ⟨place k, memory⟩ :=
  Move.look_eq_ok.2 ⟨layout.slice_place start k hstart hk, rfl⟩

theorem peek_eq (layout : Layout subject elements place) (hk : k ≤ elements.length) :
    Move.peek subject ⟨place k, memory⟩ = .ok elements[k]? ⟨place k, memory⟩ := by
  by_cases hend : k = elements.length
  · refine Move.look_eq_ok.2 ⟨?_, rfl⟩
    dsimp only
    rw [if_pos ((layout.place_eq_end_iff hk).2 hend), List.getElem?_eq_none (by omega)]
  · rw [layout.begins.peek_eq (by omega), List.getElem?_eq_getElem (by omega)]

/-- Two elements are seen where there are two. -/
theorem peek2_eq (layout : Layout subject elements place) (hk : k ≤ elements.length) :
    Move.peek2 subject ⟨place k, memory⟩ = .ok (firstTwo (elements.drop k)) ⟨place k, memory⟩ := by
  refine Move.look_eq_ok.2 ⟨?_, rfl⟩
  dsimp only
  by_cases hend : k = elements.length
  · rw [if_pos ((layout.place_eq_end_iff hk).2 hend), List.drop_eq_nil_of_le (by omega)]
    rfl
  rw [if_neg (layout.place_ne_end (by omega)), layout.after_place k (by omega),
    List.drop_eq_getElem_cons (by omega)]
  dsimp only [bind, Except.bind]
  by_cases hend' : k + 1 = elements.length
  · rw [if_pos ((layout.place_eq_end_iff (by omega)).2 hend'), List.drop_eq_nil_of_le (by omega)]
    rfl
  · rw [if_neg (layout.place_ne_end (by omega)), layout.elementAt_place k (by omega),
      layout.elementAt_place (k + 1) (by omega), List.drop_eq_getElem_cons (by omega)]
    rfl

theorem peek3_eq (layout : Layout subject elements place) (hk : k ≤ elements.length) :
    Move.peek3 subject ⟨place k, memory⟩ =
      .ok (firstThree (elements.drop k)) ⟨place k, memory⟩ := by
  refine Move.look_eq_ok.2 ⟨?_, rfl⟩
  dsimp only
  by_cases hend : k = elements.length
  · rw [if_pos ((layout.place_eq_end_iff hk).2 hend), List.drop_eq_nil_of_le (by omega)]
    rfl
  rw [if_neg (layout.place_ne_end (by omega)), layout.after_place k (by omega),
    List.drop_eq_getElem_cons (by omega)]
  dsimp only [bind, Except.bind]
  by_cases hend' : k + 1 = elements.length
  · rw [if_pos ((layout.place_eq_end_iff (by omega)).2 hend'), List.drop_eq_nil_of_le (by omega)]
    rfl
  rw [if_neg (layout.place_ne_end (by omega)), layout.after_place (k + 1) (by omega),
    List.drop_eq_getElem_cons (by omega)]
  dsimp only
  by_cases hend'' : k + 2 = elements.length
  · rw [if_pos ((layout.place_eq_end_iff (by omega)).2 hend''), List.drop_eq_nil_of_le (by omega)]
    rfl
  · rw [if_neg (layout.place_ne_end (by omega)), layout.elementAt_place k (by omega),
      layout.elementAt_place (k + 1) (by omega), layout.elementAt_place (k + 2) (by omega),
      List.drop_eq_getElem_cons (by omega)]
    rfl

theorem hasPrefix_eq [BEq ε] (layout : Layout subject elements place) (hk : k ≤ elements.length)
    (element : ε) :
    Move.hasPrefix element subject ⟨place k, memory⟩ =
      .ok (elements[k]?.any (· == element)) ⟨place k, memory⟩ := by
  refine Move.look_eq_ok.2 ⟨?_, rfl⟩
  dsimp only
  by_cases hend : k = elements.length
  · rw [if_pos ((layout.place_eq_end_iff hk).2 hend), List.getElem?_eq_none (by omega)]
    rfl
  · rw [if_neg (layout.place_ne_end (by omega)), layout.elementAt_place k (by omega),
      List.getElem?_eq_getElem (by omega)]
    rfl

/-- Comparing with a prefix ends that many elements on, or nowhere. -/
theorem prefixEnd_eq [BEq ε] (layout : Layout subject elements place) (hk : k ≤ elements.length)
    (expected : List ε) :
    prefixEnd subject (place k) expected =
      .ok (if goesOn (elements.drop k) expected then some (place (k + expected.length) : Int)
        else none) := by
  induction expected generalizing k with
  | nil =>
    rw [prefixEnd, goesOn, if_pos rfl]
    rfl
  | cons first others ih =>
    by_cases hend : k = elements.length
    · rw [prefixEnd, if_pos ((layout.place_eq_end_iff hk).2 hend),
        List.drop_eq_nil_of_le (by omega)]
      rfl
    rw [layout.begins.prefixEnd_cons (by omega), List.drop_eq_getElem_cons (by omega), goesOn]
    by_cases hsame : (elements[k] == first) = true
    · rw [if_pos hsame, ih (by omega), hsame, Bool.true_and, List.length_cons,
        show k + 1 + others.length = k + (others.length + 1) by omega]
    · rw [if_neg hsame, Bool.eq_false_iff.2 hsame, Bool.false_and, if_neg Bool.false_ne_true]

/-- Expected elements are looked for in what is left of the list. -/
theorem startsWith_eq [BEq ε] (layout : Layout subject elements place) (hk : k ≤ elements.length)
    (expected : List ε) :
    Move.startsWith expected subject ⟨place k, memory⟩ =
      .ok (goesOn (elements.drop k) expected) ⟨place k, memory⟩ := by
  refine Move.look_eq_ok.2 ⟨?_, rfl⟩
  dsimp only
  rw [layout.prefixEnd_eq hk]
  cases goesOn (elements.drop k) expected <;> rfl

end Layout

end Scanning
