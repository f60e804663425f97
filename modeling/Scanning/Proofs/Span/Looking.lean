import Scanning.Proofs.Layout.Looking
import Scanning.Span.Basic

namespace Scanning

variable {τ ε : Type}

theorem firstTwo_eq_none {elements : List ε} (h : elements.length ≤ 1) :
    firstTwo elements = none := by
  fun_cases firstTwo elements with
  | case1 a b rest =>
    simp only [List.length_cons] at h
    omega
  | case2 => rfl

theorem firstThree_eq_none {elements : List ε} (h : elements.length ≤ 2) :
    firstThree elements = none := by
  fun_cases firstThree elements with
  | case1 a b c rest =>
    simp only [List.length_cons] at h
    omega
  | case2 => rfl

theorem clampIndex_natCast {size k : Nat} (hk : k ≤ size) : clampIndex size k = k := by
  rw [clampIndex, if_neg (by omega), Int.toNat_natCast, Nat.min_eq_left hk]

/-- The window between two numbers of elements shows what is in between. -/
theorem Window.items_eq (elements : List ε) (start stop : Nat) :
    (Window.mk start stop).items elements.toArray = (elements.take stop).drop start := by
  rw [Window.items, Array.toList_extract, List.extract_eq_take_drop, List.drop_take]

namespace Span

/-- An open span of these elements. -/
def ofList (elements : List ε) : Span ε := ⟨elements.toArray, true⟩

/-- An open span is the span of its elements. -/
theorem ofList_toList {span : Span ε} (hopen : span.isOpen = true) :
    ofList span.items.toList = span := by
  obtain ⟨items, isOpen⟩ := span
  obtain rfl : isOpen = true := hopen
  rfl

variable {elements : List ε} {k : Nat} {memory : τ}

theorem length_ofList (elements : List ε) : (ofList elements).length = .ok elements.length := rfl

theorem get_ofList {index : Int} (hk : k < elements.length) (hindex : index = k) :
    (ofList elements).get index = .ok elements[k] := by
  have hopen : (ofList elements).isOpen = true := rfl
  have hsize : k < (ofList elements).items.size := hk
  rw [get, if_pos hopen, hindex, resolveIndex_natCast hsize]
  simp [ofList, hk]

theorem window_ofList {start stop : Nat} (hstart : start ≤ elements.length)
    (hstop : stop ≤ elements.length) :
    (ofList elements).window start stop = .ok ⟨start, stop⟩ := by
  have hopen : (ofList elements).isOpen = true := rfl
  have hsize : (ofList elements).items.size = elements.length := rfl
  rw [window, if_pos hopen, hsize, clampIndex_natCast hstart, clampIndex_natCast hstop]

theorem position_eq (span : Span ε) (standing : Standing τ) :
    position span standing = .ok standing.position standing := rfl

theorem isEmpty_eq : isEmpty (ofList elements) ⟨k, memory⟩ =
    .ok (decide (k = elements.length)) ⟨k, memory⟩ := by
  refine Move.look_eq_ok.2 ⟨?_, rfl⟩
  simp only [length_ofList, bind, Except.bind, pure, Except.pure, Int.natCast_inj]

/-- The remainder is the window from the cursor to the end. -/
theorem remainder_eq (hk : k ≤ elements.length) :
    remainder (ofList elements) ⟨k, memory⟩ = .ok ⟨k, elements.length⟩ ⟨k, memory⟩ :=
  Move.look_eq_ok.2 ⟨window_ofList hk (Nat.le_refl _), rfl⟩

theorem peek_eq : peek (ofList elements) ⟨k, memory⟩ = .ok elements[k]? ⟨k, memory⟩ := by
  refine Move.look_eq_ok.2 ⟨?_, rfl⟩
  simp only [length_ofList, bind, Except.bind]
  by_cases hend : elements.length ≤ k
  · rw [if_pos (by omega), List.getElem?_eq_none hend]
    rfl
  · rw [if_neg (by omega), get_ofList (by omega) rfl, List.getElem?_eq_getElem (by omega)]
    rfl

theorem isNext_eq [BEq ε] (element : ε) :
    isNext element (ofList elements) ⟨k, memory⟩ =
      .ok (elements[k]?.any (· == element)) ⟨k, memory⟩ := by
  refine Move.look_eq_ok.2 ⟨?_, rfl⟩
  simp only [length_ofList, bind, Except.bind]
  by_cases hend : elements.length ≤ k
  · rw [if_pos (by omega), List.getElem?_eq_none hend]
    rfl
  · rw [if_neg (by omega), get_ofList (by omega) rfl, List.getElem?_eq_getElem (by omega)]
    rfl

theorem lacks_eq (count : Int) : lacks count (ofList elements) ⟨k, memory⟩ =
    .ok (decide (k + count > elements.length)) ⟨k, memory⟩ := rfl

/-- The next two elements are told only together. -/
theorem peek2_eq : peek2 (ofList elements) ⟨k, memory⟩ =
    .ok (firstTwo (elements.drop k)) ⟨k, memory⟩ := by
  refine Move.look_eq_ok.2 ⟨?_, rfl⟩
  simp only [length_ofList, bind, Except.bind]
  by_cases hend : elements.length ≤ k + 1
  · rw [if_pos (by omega), firstTwo_eq_none (by rw [List.length_drop]; omega)]
    rfl
  · rw [if_neg (by omega), get_ofList (by omega) rfl,
      get_ofList (k := k + 1) (by omega) (by omega), List.drop_eq_getElem_cons (by omega),
      List.drop_eq_getElem_cons (by omega)]
    rfl

theorem peek3_eq : peek3 (ofList elements) ⟨k, memory⟩ =
    .ok (firstThree (elements.drop k)) ⟨k, memory⟩ := by
  refine Move.look_eq_ok.2 ⟨?_, rfl⟩
  simp only [length_ofList, bind, Except.bind]
  by_cases hend : elements.length ≤ k + 2
  · rw [if_pos (by omega), firstThree_eq_none (by rw [List.length_drop]; omega)]
    rfl
  · rw [if_neg (by omega), get_ofList (by omega) rfl,
      get_ofList (k := k + 1) (by omega) (by omega), get_ofList (k := k + 2) (by omega) (by omega),
      List.drop_eq_getElem_cons (by omega), List.drop_eq_getElem_cons (by omega),
      List.drop_eq_getElem_cons (by omega)]
    rfl

end Span

end Scanning
