import Scanning.Proofs.Layout.Subject
import Scanning.Proofs.Layout.Taking
import Scanning.Proofs.Move.Bounds
import Scanning.Proofs.Move.Stepwise

namespace Scanning

open IndexSpace

variable {σ τ ε : Type} [IndexSpace σ ε]

namespace Layout

variable {subject : σ} {elements : List ε} {place : Nat → Nat} {k : Nat} {memory : τ}

/-- Behind the last element there is nothing to take, and nowhere to go. -/
theorem pop_min (layout : Layout subject elements place) (k : Nat) :
    Move.pop subject ⟨place (min k elements.length), memory⟩ =
      .ok elements[k]? ⟨place (min (k + 1) elements.length), memory⟩ := by
  by_cases hk : k < elements.length
  · rw [Nat.min_eq_left (by omega), Nat.min_eq_left (by omega), layout.pop_eq hk,
      List.getElem?_eq_getElem hk]
  · rw [Nat.min_eq_right (by omega), Nat.min_eq_right (by omega), layout.pop_end,
      List.getElem?_eq_none (by omega)]

/-- Taking a number of elements one by one gives those that there are and then nothing. -/
theorem popTimes_min (layout : Layout subject elements place) (count k : Nat) :
    Move.popTimes count subject ⟨place (min k elements.length), memory⟩ =
      .ok ((List.range' k count).map (elements[·]?))
        ⟨place (min (k + count) elements.length), memory⟩ := by
  induction count generalizing k with
  | zero => rfl
  | succ count ih =>
    rw [Move.popTimes, Move.bind_of_ok (layout.pop_min k),
      show k + (count + 1) = k + 1 + count by omega]
    exact Move.map_eq_ok.2 ⟨_, ih (k + 1), rfl⟩

/-- From a place in the list, taking elements one by one stops moving at the end. -/
theorem popTimes_eq (layout : Layout subject elements place) (hk : k ≤ elements.length)
    (count : Nat) :
    Move.popTimes count subject ⟨place k, memory⟩ =
      .ok ((List.range' k count).map (elements[·]?))
        ⟨place (min (k + count) elements.length), memory⟩ := by
  have h : Move.popTimes count subject ⟨place (min k elements.length), memory⟩ = _ :=
    layout.popTimes_min count k
  rwa [Nat.min_eq_left hk] at h

/-- Steps of one element lead as many elements on as there are steps. -/
theorem advanceTimes_eq (layout : Layout subject elements place) {count : Nat}
    (hcount : k + count ≤ elements.length) :
    Move.advanceTimes count subject ⟨place k, memory⟩ = .ok () ⟨place (k + count), memory⟩ := by
  induction count generalizing k with
  | zero => rfl
  | succ count ih =>
    rw [Move.advanceTimes, Move.bind_of_ok (layout.advance_eq (by omega)), ih (by omega),
      show k + (count + 1) = k + 1 + count by omega]

theorem advanceTimes_outside (layout : Layout subject elements place) {count : Nat}
    (hk : k ≤ elements.length) (hcount : elements.length < k + count) :
    Move.advanceTimes count subject ⟨place k, memory⟩ =
      .error (.outOfBounds .subjectExhausted) ⟨place elements.length, memory⟩ := by
  induction count generalizing k with
  | zero => omega
  | succ count ih =>
    rw [Move.advanceTimes]
    by_cases hend : k = elements.length
    · subst hend
      exact Move.bind_of_error layout.advance_end
    · rw [Move.bind_of_ok (layout.advance_eq (by omega)), ih (by omega) (by omega)]

/-- Comparing element by element answers whether the list goes on with the expected ones, and ends
behind them if it does. -/
theorem popEach_eq [BEq ε] (layout : Layout subject elements place) (hk : k ≤ elements.length)
    (expected : List ε) :
    ∃ stop, Move.popEach expected subject ⟨place k, memory⟩ =
        .ok (goesOn (elements.drop k) expected) stop ∧
      (goesOn (elements.drop k) expected = true →
        stop = ⟨place (k + expected.length), memory⟩) := by
  induction expected generalizing k with
  | nil =>
    rw [goesOn]
    exact ⟨_, rfl, fun _ => rfl⟩
  | cons first others ih =>
    rw [Move.popEach]
    by_cases hend : k = elements.length
    · subst hend
      rw [Move.bind_of_ok (layout.popElement_end first), List.drop_length, goesOn]
      exact ⟨_, rfl, fun h => by cases h⟩
    rw [List.drop_eq_getElem_cons (by omega), goesOn]
    have hpop : Move.popElement first subject ⟨place k, memory⟩ = _ :=
      layout.popElement_eq (by omega) first
    cases hsame : elements[k] == first with
    | false =>
      rw [hsame] at hpop
      rw [Move.bind_of_ok hpop]
      exact ⟨_, rfl, fun h => by cases h⟩
    | true =>
      rw [hsame] at hpop
      obtain ⟨stop, hothers, hstop⟩ := ih (show k + 1 ≤ elements.length by omega)
      rw [Move.bind_of_ok hpop, List.length_cons,
        show k + (others.length + 1) = k + 1 + others.length by omega]
      exact ⟨stop, hothers, hstop⟩

/-- What a run reads is what taking the elements one by one gives. -/
theorem popWhile_eq (layout : Layout subject elements place) (hk : k ≤ elements.length)
    (test : Test τ ε) :
    Move.popWhile test subject ⟨place k, memory⟩ =
      match accepted test (elements.drop k) memory with
      | (count, memory, none) => .ok ((elements.drop k).take count) ⟨place (k + count), memory⟩
      | (count, memory, some fault) => .error fault ⟨place (k + count), memory⟩ := by
  obtain ⟨room, hroom⟩ : ∃ room, elements.length - k = room := ⟨_, rfl⟩
  induction room generalizing k memory with
  | zero =>
    obtain rfl : k = elements.length := by omega
    rw [Move.popWhile_of_none (layout.popWhere_end test), List.drop_length]
    rfl
  | succ room ih =>
    have hpop : Move.popWhere test subject ⟨place k, memory⟩ = _ :=
      layout.popWhere_eq (by omega) test
    rw [List.drop_eq_getElem_cons (by omega), accepted]
    cases htest : test elements[k] memory with
    | error fault memory' =>
      rw [htest] at hpop
      exact Move.popWhile_of_error hpop
    | ok verdict memory' =>
      rw [htest] at hpop
      cases verdict with
      | false => exact Move.popWhile_of_none hpop
      | true =>
        rw [Move.popWhile_of_some hpop, ih (by omega) (by omega)]
        dsimp only
        obtain ⟨count, memory'', ending⟩ := accepted test (elements.drop (k + 1)) memory'
        have hsum : k + 1 + count = k + (count + 1) := by omega
        cases ending with
        | none =>
          dsimp only
          rw [hsum, List.take_succ_cons]
        | some fault =>
          dsimp only
          rw [hsum]

end Layout

/-- What operations on many elements do from where a cursor stands, told by what steps of one element
do on a copy of it. The tests may remember what they have been asked, and they may fail. -/
structure Unfolds [BEq ε] (cursor copy : Cursor σ) (memory : τ) : Prop where
  read (count : Nat) : ∃ rest, cursor.perform memory Move.remainder =
      .ok rest ⟨cursor.position, memory⟩ ∧
    (rest.length < count →
      cursor.perform memory (Move.read count) = .ok none ⟨cursor.position, memory⟩) ∧
    (count ≤ rest.length → ∃ taken stop,
      copy.perform memory (Move.popTimes count) = .ok (taken.map some) stop ∧
        cursor.perform memory (Move.read count) = .ok (some taken) stop)
  compare (expected : List ε) : ∃ there stop,
    copy.perform memory (Move.popEach expected) = .ok there stop ∧
      cursor.perform memory (Move.readPrefix expected) =
        .ok there (if there then stop else ⟨cursor.position, memory⟩) ∧
      cursor.perform memory (Move.startsWith expected) = .ok there ⟨cursor.position, memory⟩
  readWhile (test : Test τ ε) :
    cursor.perform memory (Move.readWhile test) = copy.perform memory (Move.popWhile test)
  advanceWhile (test : Test τ ε) :
    cursor.perform memory (Move.advanceWhile test) =
      match copy.perform memory (Move.popWhile test) with
      | .error fault stop => .error fault stop
      | .ok _ stop => .ok () stop
  advanceBy (count : Nat) :
    (∃ stop, copy.perform memory (Move.advanceTimes count) = .ok () stop ∧
      cursor.perform memory (Move.advanceBy count) = .ok () stop) ∨
    ∃ fault stop cause, copy.perform memory (Move.advanceTimes count) = .error fault stop ∧
      cursor.perform memory (Move.advanceBy count) =
        .error (.outOfBounds cause) ⟨cursor.position, memory⟩
  peek : ∃ first stop, copy.perform memory (Move.popTimes 1) = .ok [first] stop ∧
    cursor.perform memory Move.peek = .ok first ⟨cursor.position, memory⟩
  peek2 : ∃ first second stop, copy.perform memory (Move.popTimes 2) = .ok [first, second] stop ∧
    cursor.perform memory Move.peek2 =
      .ok (do return (← first, ← second)) ⟨cursor.position, memory⟩
  peek3 : ∃ first second third stop,
    copy.perform memory (Move.popTimes 3) = .ok [first, second, third] stop ∧
      cursor.perform memory Move.peek3 =
        .ok (do return (← first, ← second, ← third)) ⟨cursor.position, memory⟩

/-- The elements between two numbers are there. -/
theorem map_getElem?_range' {k count : Nat} {elements : List ε} (h : k + count ≤ elements.length) :
    (List.range' k count).map (elements[·]?) = ((elements.drop k).take count).map some := by
  induction count generalizing k with
  | zero => rfl
  | succ count ih =>
    rw [List.range'_succ, List.map_cons, ih (by omega), List.getElem?_eq_getElem (by omega),
      List.drop_eq_getElem_cons (show k < elements.length by omega), List.take_succ_cons,
      List.map_cons]

/-- The first two elements from a number on are those of that number and the next. -/
theorem firstTwo_drop (elements : List ε) (k : Nat) :
    firstTwo (elements.drop k) = do return (← elements[k]?, ← elements[k + 1]?) := by
  have h (rest : List ε) : firstTwo rest = do return (← rest[0]?, ← rest[1]?) := by
    rcases rest with _ | ⟨first, _ | ⟨second, rest⟩⟩
    all_goals rfl
  simp only [h, List.getElem?_drop, Nat.add_zero]

theorem firstThree_drop (elements : List ε) (k : Nat) :
    firstThree (elements.drop k) =
      do return (← elements[k]?, ← elements[k + 1]?, ← elements[k + 2]?) := by
  have h (rest : List ε) : firstThree rest = do return (← rest[0]?, ← rest[1]?, ← rest[2]?) := by
    rcases rest with _ | ⟨first, _ | ⟨second, _ | ⟨third, rest⟩⟩⟩
    all_goals rfl
  simp only [h, List.getElem?_drop, Nat.add_zero]

/-- At the places of a layout, operations on many elements do what steps of one element do. -/
theorem Layout.unfolds [BEq ε] {subject : σ} {elements : List ε} {place : Nat → Nat} {k : Nat}
    (layout : Layout subject elements place) (hk : k ≤ elements.length) (memory : τ) :
    Unfolds ⟨subject, place k⟩ ⟨subject, place k⟩ memory where
  read count := by
    refine ⟨_, layout.remainder_eq hk, ?_, ?_⟩
    · rw [List.length_drop]
      intro hcount
      exact layout.read_short hk (by omega)
    · rw [List.length_drop]
      intro hcount
      have htimes : Move.popTimes count subject ⟨place k, memory⟩ = _ := layout.popTimes_eq hk count
      rw [map_getElem?_range' (by omega), Nat.min_eq_left (by omega)] at htimes
      exact ⟨_, _, htimes, layout.read_eq (by omega)⟩
  compare expected := by
    obtain ⟨stop, heach, hstop⟩ : ∃ stop,
      Move.popEach expected subject ⟨place k, memory⟩ = _ ∧ _ := layout.popEach_eq hk expected
    refine ⟨_, stop, heach, ?_, layout.startsWith_eq hk expected⟩
    refine (layout.readPrefix_eq hk expected).trans ?_
    cases hthere : goesOn (elements.drop k) expected with
    | false => rfl
    | true => rw [hstop hthere]; rfl
  readWhile test := (layout.readWhile_eq hk test).trans (layout.popWhile_eq hk test).symm
  advanceWhile test := Move.advanceWhile_eq_popWhile test subject ⟨place k, memory⟩
  advanceBy count := by
    by_cases hcount : k + count ≤ elements.length
    · have hby : Move.advanceBy _ subject ⟨place k, memory⟩ = _ := layout.advanceBy_eq hk hcount
      rw [show ((k + count : Nat) : Int) - k = count by omega] at hby
      exact .inl ⟨_, layout.advanceTimes_eq hcount, hby⟩
    · have hout : (k : Int) + count < 0 ∨ elements.length < (k : Int) + count := .inr (by omega)
      obtain ⟨cause, hby⟩ : ∃ cause, Move.advanceBy count subject ⟨place k, memory⟩ = _ :=
        layout.advanceBy_outside hk hout
      exact .inr ⟨_, _, cause, layout.advanceTimes_outside hk (by omega), hby⟩
  peek := ⟨_, _, layout.popTimes_eq hk 1, layout.peek_eq hk⟩
  peek2 := by
    refine ⟨_, _, _, layout.popTimes_eq hk 2, ?_⟩
    rw [← firstTwo_drop]
    exact layout.peek2_eq hk
  peek3 := by
    refine ⟨_, _, _, _, layout.popTimes_eq hk 3, ?_⟩
    rw [← firstThree_drop]
    exact layout.peek3_eq hk

namespace Subject

/-- Where a cursor may stand in a subject: in front of an element or behind the last one. Bytes seen as
UTF-8 have to be those of a text. -/
def HasPlace : Subject → Int → Prop
  | scalars view, position => ∃ text : String, view = ScalarView.ofText text ∧
    ∃ k ≤ text.toList.length, position = Utf8.byteOffset text.toList k
  | text characters, position => Within characters position
  | bytes data, position => Within data position
  | items values, position => Within values position

/-- What holds at each place of the subjects of each kind holds wherever a cursor may stand. -/
@[elab_as_elim]
theorem HasPlace.cases_kind {motive : Subject → Int → Prop}
    (characters : ∀ (characters : Sequence Char) (k : Nat), k ≤ characters.elements.size →
      motive (text characters) k)
    (bytes : ∀ (data : Sequence UInt8) (k : Nat), k ≤ data.elements.size → motive (bytes data) k)
    (items : ∀ (values : Sequence Value) (k : Nat), k ≤ values.elements.size →
      motive (items values) k)
    (scalars : ∀ (text : String) (k : Nat), k ≤ text.toList.length →
      motive (scalars (ScalarView.ofText text)) (Utf8.byteOffset text.toList k))
    {subject : Subject} {position : Int} (h : subject.HasPlace position) :
    motive subject position := by
  cases subject with
  | scalars view =>
    obtain ⟨text, rfl, k, hk, rfl⟩ := h
    exact scalars text k hk
  | text sequence =>
    obtain ⟨k, rfl⟩ := Int.eq_ofNat_of_zero_le h.1
    exact characters sequence k (Int.ofNat_le.1 h.2)
  | bytes data =>
    obtain ⟨k, rfl⟩ := Int.eq_ofNat_of_zero_le h.1
    exact bytes data k (Int.ofNat_le.1 h.2)
  | items values =>
    obtain ⟨k, rfl⟩ := Int.eq_ofNat_of_zero_le h.1
    exact items values k (Int.ofNat_le.1 h.2)

/-- Wherever a cursor may stand its subject has a layout with that place in it. -/
theorem exists_layout {subject : Subject} {position : Int} (h : subject.HasPlace position) :
    ∃ elements place, ∃ k ≤ elements.length, Layout subject elements place ∧ position = place k := by
  refine HasPlace.cases_kind ?_ ?_ ?_ ?_ h
  · intro characters k hk
    exact ⟨_, _, k, (List.length_map _).symm ▸ hk, layout_characters characters, rfl⟩
  · intro data k hk
    exact ⟨_, _, k, (List.length_map _).symm ▸ hk, layout_bytes data, rfl⟩
  · intro values k hk
    exact ⟨_, _, k, hk, layout_items values, rfl⟩
  · intro text k hk
    exact ⟨_, _, k, (List.length_map _).symm ▸ hk, layout_scalars text, rfl⟩

/-- Wherever a cursor may stand, operations on many elements do what steps of one element do. -/
theorem exists_copy_unfolds {subject : Subject} {position : Int} (h : subject.HasPlace position)
    {τ : Type} (memory : τ) :
    ∃ copy : Cursor Subject, Cursor.copy ⟨subject, position⟩ = .ok copy ∧
      Unfolds ⟨subject, position⟩ copy memory := by
  obtain ⟨elements, place, k, hk, layout, rfl⟩ := exists_layout h
  refine ⟨⟨subject, place k⟩, ?_, layout.unfolds hk memory⟩
  exact if_pos ⟨Int.natCast_nonneg _, layout.place_le_end hk⟩

/-- Between the two characters of aé, of which the second has two bytes. -/
theorem exists_copy_unfolds_twoBytes :
    HasPlace (scalars (ScalarView.ofText "aé")) 1 ∧
      ∃ copy : Cursor Subject, Cursor.copy ⟨scalars (ScalarView.ofText "aé"), 1⟩ = .ok copy ∧
        Unfolds ⟨scalars (ScalarView.ofText "aé"), 1⟩ copy () := by
  have h : HasPlace (scalars (ScalarView.ofText "aé")) 1 := ⟨"aé", rfl, 1, by decide, by decide⟩
  exact ⟨h, exists_copy_unfolds h ()⟩

end Subject

end Scanning
