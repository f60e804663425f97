import Scanning.Proofs.Layout.Taking
import Scanning.Proofs.Span.Looking

namespace Scanning.Span

variable {τ ε : Type} {elements : List ε} {k : Nat} {memory : τ}

/-- With an element left advancing goes past it. -/
theorem advance_eq (hk : k < elements.length) :
    advance (ofList elements) ⟨k, memory⟩ = .ok () ⟨(k + 1 : Nat), memory⟩ := by
  refine Move.consume_eq_ok.2 ⟨(k + 1 : Nat), ?_, rfl⟩
  simp only [length_ofList, bind, Except.bind]
  rw [if_neg (by omega)]
  rfl

theorem advance_end :
    advance (ofList elements) ⟨elements.length, memory⟩ =
      .error (.outOfBounds .spanExhausted) ⟨elements.length, memory⟩ := by
  simp only [advance, Move.consume, length_ofList, bind, Except.bind]
  rw [if_pos (Int.le_refl _)]
  rfl

theorem uncheckedAdvance_eq (hk : k < elements.length) :
    uncheckedAdvance (ofList elements) ⟨k, memory⟩ = .ok () ⟨(k + 1 : Nat), memory⟩ := by
  refine Move.consume_eq_ok.2 ⟨(k + 1 : Nat), ?_, rfl⟩
  simp only [length_ofList, bind, Except.bind]
  rw [if_pos (by omega)]
  rfl

theorem uncheckedAdvance_end :
    uncheckedAdvance (ofList elements) ⟨elements.length, memory⟩ =
      .error .unmet ⟨elements.length, memory⟩ := by
  simp only [uncheckedAdvance, Move.consume, length_ofList, bind, Except.bind]
  rw [if_neg (by omega)]
  rfl

/-- A target inside the span is reached. -/
theorem advanceBy_eq {target : Nat} (htarget : target ≤ elements.length) :
    advanceBy (target - k) (ofList elements) ⟨k, memory⟩ = .ok () ⟨target, memory⟩ := by
  refine Move.consume_eq_ok.2 ⟨target, ?_, rfl⟩
  simp only [length_ofList, bind, Except.bind]
  rw [show (k : Int) + (target - k) = target by omega, if_pos ⟨by omega, by omega⟩]
  rfl

/-- A target outside the span is refused, with the distance and where the cursor stands. -/
theorem advanceBy_outside {distance : Int}
    (hout : k + distance < 0 ∨ elements.length < k + distance) :
    advanceBy distance (ofList elements) ⟨k, memory⟩ =
      .error (.outOfBounds (.pastEither distance k elements.length)) ⟨k, memory⟩ := by
  simp only [advanceBy, Move.consume, length_ofList, bind, Except.bind]
  rw [if_neg (by omega)]
  rfl

theorem uncheckedAdvanceBy_eq {target : Nat} (htarget : target ≤ elements.length) :
    uncheckedAdvanceBy (target - k) (ofList elements) ⟨k, memory⟩ = .ok () ⟨target, memory⟩ := by
  refine Move.consume_eq_ok.2 ⟨target, ?_, rfl⟩
  simp only [length_ofList, bind, Except.bind]
  rw [show (k : Int) + (target - k) = target by omega, if_pos ⟨by omega, by omega⟩]
  rfl

/-- For a target outside the span the precondition of an unchecked step is not met. -/
theorem uncheckedAdvanceBy_outside {distance : Int}
    (hout : k + distance < 0 ∨ elements.length < k + distance) :
    uncheckedAdvanceBy distance (ofList elements) ⟨k, memory⟩ =
      .error .unmet ⟨k, memory⟩ := by
  simp only [uncheckedAdvanceBy, Move.consume, length_ofList, bind, Except.bind]
  rw [if_neg (by omega)]
  rfl

theorem uncheckedPop_eq (hk : k < elements.length) :
    uncheckedPop (ofList elements) ⟨k, memory⟩ = .ok elements[k] ⟨(k + 1 : Nat), memory⟩ := by
  refine Move.consume_eq_ok.2 ⟨(k + 1 : Nat), ?_, rfl⟩
  simp only [length_ofList, bind, Except.bind]
  rw [if_pos (by omega), get_ofList hk rfl]
  rfl

theorem uncheckedPop_end :
    uncheckedPop (ofList elements) ⟨elements.length, memory⟩ =
      .error .unmet ⟨elements.length, memory⟩ := by
  simp only [uncheckedPop, Move.consume, length_ofList, bind, Except.bind]
  rw [if_neg (by omega)]
  rfl

/-- With an element left popping gives it and goes past it. -/
theorem pop_eq (hk : k < elements.length) :
    pop (ofList elements) ⟨k, memory⟩ = .ok (some elements[k]) ⟨(k + 1 : Nat), memory⟩ := by
  simp only [pop, length_ofList]
  rw [if_neg (by omega)]
  exact Move.map_eq_ok.2 ⟨elements[k], uncheckedPop_eq hk, rfl⟩

theorem pop_end :
    pop (ofList elements) ⟨elements.length, memory⟩ = .ok none ⟨elements.length, memory⟩ := by
  simp only [pop, length_ofList]
  rw [if_pos (Int.le_refl _)]

/-- Popping an element that is expected goes past it if it is the next one, and stays if not. -/
theorem popElement_eq [BEq ε] (hk : k < elements.length) (element : ε) :
    popElement element (ofList elements) ⟨k, memory⟩ =
      if elements[k] == element then .ok true ⟨(k + 1 : Nat), memory⟩
      else .ok false ⟨k, memory⟩ := by
  rw [popElement, Move.bind_of_ok (isNext_eq element), List.getElem?_eq_getElem hk, Option.any_some]
  cases elements[k] == element with
  | false => rfl
  | true => exact Move.bind_of_ok (uncheckedAdvance_eq hk)

theorem popElement_end [BEq ε] (element : ε) :
    popElement element (ofList elements) ⟨elements.length, memory⟩ =
      .ok false ⟨elements.length, memory⟩ := by
  rw [popElement, Move.bind_of_ok (isNext_eq element), List.getElem?_eq_none (Nat.le_refl _)]
  rfl

/-- Popping under a test asks about the next element, goes past it if it is accepted, and stays if
it is refused or the test raises. -/
theorem popWhere_eq (hk : k < elements.length) (test : Test τ ε) :
    popWhere test (ofList elements) ⟨k, memory⟩ =
      match test elements[k] memory with
      | .error fault memory => .error fault ⟨k, memory⟩
      | .ok false memory => .ok none ⟨k, memory⟩
      | .ok true memory => .ok (some elements[k]) ⟨(k + 1 : Nat), memory⟩ := by
  simp only [popWhere, length_ofList]
  rw [if_neg (by omega), get_ofList hk rfl]
  dsimp only
  cases test elements[k] memory with
  | error fault memory => rfl
  | ok verdict memory =>
    cases verdict with
    | false => rfl
    | true => exact Move.map_eq_ok.2 ⟨(), uncheckedAdvance_eq hk, rfl⟩

theorem popWhere_end (test : Test τ ε) :
    popWhere test (ofList elements) ⟨elements.length, memory⟩ =
      .ok none ⟨elements.length, memory⟩ := by
  simp only [popWhere, length_ofList]
  rw [if_pos (Int.le_refl _)]

theorem read_negative {count : Int} (hcount : count < 0) (span : Span ε) (standing : Standing τ) :
    read count span standing = .error (.negativeCount count) standing := by
  rw [read, if_pos hcount]
  rfl

/-- With enough elements reading gives the window over the next ones and goes past them. -/
theorem read_eq {count : Nat} (hroom : k + count ≤ elements.length) :
    read count (ofList elements) ⟨k, memory⟩ =
      .ok (some ⟨k, k + count⟩) ⟨(k + count : Nat), memory⟩ := by
  have hdistance : ((k + count : Nat) : Int) - k = count := by omega
  have hadvance : uncheckedAdvanceBy ((k + count : Nat) - k : Int) (ofList elements) ⟨k, memory⟩ =
      .ok () ⟨(k + count : Nat), memory⟩ := uncheckedAdvanceBy_eq hroom
  rw [hdistance] at hadvance
  have hwindow : (ofList elements).window k (k + count) = .ok ⟨k, k + count⟩ := by
    rw [← Int.natCast_add, window_ofList (by omega) hroom]
  rw [read, if_neg (by omega), Move.bind_of_ok (position_eq _ _), Move.bind_of_ok (lacks_eq _),
    decide_eq_false (by omega), if_neg Bool.false_ne_true, Move.bind_of_ok hadvance]
  exact Move.map_eq_ok.2 ⟨_, Move.look_eq_ok.2 ⟨hwindow, rfl⟩, rfl⟩

/-- With too few elements reading gives nothing and stays. -/
theorem read_short {count : Nat} (hshort : elements.length < k + count) :
    read count (ofList elements) ⟨k, memory⟩ = .ok none ⟨k, memory⟩ := by
  rw [read, if_neg (by omega), Move.bind_of_ok (position_eq _ _), Move.bind_of_ok (lacks_eq _),
    decide_eq_true (by omega), if_pos rfl]
  rfl

/-- A run leaves the accepted elements behind, also when the test fails. -/
theorem advanceWhile_eq (hk : k ≤ elements.length) (test : Test τ ε) :
    advanceWhile test (ofList elements) ⟨k, memory⟩ =
      ranFrom id k (accepted test (elements.drop k) memory) := by
  obtain ⟨room, hroom⟩ : ∃ room, elements.length - k = room := ⟨_, rfl⟩
  change runBelow (ofList elements) elements.length test ⟨k, memory⟩ = _
  induction room generalizing k memory with
  | zero =>
    rw [runBelow, if_neg (by dsimp only; omega), List.drop_eq_nil_of_le (by omega)]
    rfl
  | succ room ih =>
    rw [runBelow, if_pos (by dsimp only; omega), get_ofList (by omega) rfl,
      List.drop_eq_getElem_cons (by omega), accepted]
    dsimp only
    cases htest : test elements[k] memory with
    | error fault memory' => rfl
    | ok verdict memory' =>
      cases verdict with
      | false => rfl
      | true =>
        have hnext : runBelow (ofList elements) elements.length test ⟨(k + 1 : Nat), memory'⟩ = _ :=
          ih (by omega) (by omega)
        exact hnext.trans (ranFrom_succ id k _).symm

/-- Reading a run gives the window of the accepted elements; nothing is given when the test
fails. -/
theorem readWhile_eq (hk : k ≤ elements.length) (test : Test τ ε) :
    readWhile test (ofList elements) ⟨k, memory⟩ =
      match accepted test (elements.drop k) memory with
      | (count, memory, none) => .ok ⟨k, k + count⟩ ⟨(k + count : Nat), memory⟩
      | (count, memory, some fault) => .error fault ⟨(k + count : Nat), memory⟩ := by
  have hle := accepted_le test (elements.drop k) memory
  have hrun : advanceWhile test (ofList elements) ⟨k, memory⟩ = _ := advanceWhile_eq hk test
  obtain ⟨⟨count, memory', ending⟩, haccepted⟩ :
      ∃ run, accepted test (elements.drop k) memory = run := ⟨_, rfl⟩
  rw [haccepted] at hle hrun ⊢
  rw [List.length_drop] at hle
  rw [readWhile, Move.bind_of_ok (position_eq _ _)]
  cases ending with
  | none =>
    rw [Move.bind_of_ok hrun]
    exact Move.look_eq_ok.2 ⟨window_ofList hk (show k + count ≤ elements.length by omega), rfl⟩
  | some fault => exact Move.bind_of_error hrun

end Scanning.Span
