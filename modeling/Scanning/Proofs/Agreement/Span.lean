import Mathlib.Data.List.Forall2
import Scanning.Proofs.Agreement.Run
import Scanning.Proofs.Span.Taking

namespace Scanning

variable {σ τ ε α : Type}

/-- What can be asked of a cursor over a span and of one over a collection. -/
inductive SharedOperation (τ ε : Type) where
  | isAtEnd
  | remainder
  | advance
  | advanceBy (distance : Int)
  | advanceWhile (test : Test τ ε)
  | peek
  | peek2
  | peek3
  | pop
  | popElement (element : ε)
  | popWhere (test : Test τ ε)
  | read (count : Int)
  | readWhile (test : Test τ ε)

/-- The answer of a move that gives out a window: the elements that the window shows. -/
def Span.shown (move : Move (Span ε) τ (Option Window)) : Move (Span ε) τ (Scanning.Answer ε) := do
  let window ← move
  let span ← readThe (Span ε)
  return .piece (window.map (·.items span.items))

namespace SharedOperation

/-- The operation of a cursor over a collection. -/
def onCollection : SharedOperation τ ε → Operation σ τ ε
  | isAtEnd => .isAtEnd
  | remainder => .remainder
  | advance => .advance
  | advanceBy distance => .advanceBy distance
  | advanceWhile test => .advanceWhile test
  | peek => .peek
  | peek2 => .peek2
  | peek3 => .peek3
  | pop => .pop
  | popElement element => .popElement element
  | popWhere test => .popWhere test
  | read count => .read count
  | readWhile test => .readWhile test

/-- The move of a cursor over a span. -/
def onSpan [BEq ε] : SharedOperation τ ε → Move (Span ε) τ (Answer ε)
  | isAtEnd => .verdict <$> Span.isEmpty
  | remainder => Span.shown (some <$> Span.remainder)
  | advance => (fun _ => .nothing) <$> Span.advance
  | advanceBy distance => (fun _ => .nothing) <$> Span.advanceBy distance
  | advanceWhile test => (fun _ => .nothing) <$> Span.advanceWhile test
  | peek => .element <$> Span.peek
  | peek2 => .pair <$> Span.peek2
  | peek3 => .triple <$> Span.peek3
  | pop => .element <$> Span.pop
  | popElement element => .verdict <$> Span.popElement element
  | popWhere test => .element <$> Span.popWhere test
  | read count => Span.shown (Span.read count)
  | readWhile test => Span.shown (some <$> Span.readWhile test)

end SharedOperation

/-- The reply of a move, and where the cursor stands then. -/
def Move.outcome : EStateM.Result Fault (Standing τ) α → Except Fault α × Standing τ
  | .ok answer standing => (.ok answer, standing)
  | .error fault standing => (.error fault, standing)

/-- What moves reply, each begun where the one before has left the cursor. A move that fails does
not end the run. -/
def Move.runAll (subject : σ) (standing : Standing τ) :
    List (Move σ τ α) → List (Except Fault α × Standing τ)
  | [] => []
  | move :: others =>
    let outcome := Move.outcome (move subject standing)
    outcome :: runAll subject outcome.2 others

namespace SharedOperation

/-- A run of operations on a cursor over a span. -/
def runOnSpan [BEq ε] (span : Span ε) (standing : Standing τ)
    (operations : List (SharedOperation τ ε)) : List (Except Fault (Answer ε) × Standing τ) :=
  Move.runAll span standing (operations.map onSpan)

/-- The same run on a cursor over a collection. -/
def runOnCollection [IndexSpace σ ε] [BEq ε] (subject : σ) (standing : Standing τ)
    (operations : List (SharedOperation τ ε)) : List (Except Fault (Answer ε) × Standing τ) :=
  Move.runAll subject standing (operations.map fun operation => operation.onCollection.move)

end SharedOperation

/-- The same reply, at the same place of so many elements and with the same memory. -/
inductive SameOutcome (size : Nat) :
    Except Fault α × Standing τ → Except Fault α × Standing τ → Prop where
  | intro {reply reply' : Except Fault α} {k : Nat} (hreply : SameReply reply reply')
      (hk : k ≤ size) (memory : τ) : SameOutcome size (reply, ⟨k, memory⟩) (reply', ⟨k, memory⟩)

/-- Outcomes that agree at the numbers of the elements are the same outcome. -/
theorem Agree.sameOutcome {size : Nat} {result result' : EStateM.Result Fault (Standing τ) α}
    (h : Agree size id id result result') :
    SameOutcome size (Move.outcome result) (Move.outcome result') := by
  cases h with
  | ok hk answer memory => exact .intro (.ok answer) hk memory
  | error hk hkind memory => exact .intro (.error hkind) hk memory

namespace Span

variable {elements : List ε} {k : Nat} {memory : τ}

theorem shown_of_ok {move : Move (Span ε) τ (Option Window)} {window : Option Window}
    {standing standing' : Standing τ} (h : move (ofList elements) standing = .ok window standing') :
    shown move (ofList elements) standing =
      .ok (.piece (window.map (·.items elements.toArray))) standing' := by
  rw [shown, Move.bind_of_ok h]
  rfl

theorem shown_of_error {move : Move (Span ε) τ (Option Window)} {span : Span ε} {fault : Fault}
    {standing standing' : Standing τ} (h : move span standing = .error fault standing') :
    shown move span standing = .error fault standing' :=
  Move.bind_of_error h

variable [IndexSpace σ ε] {subject : σ} {place : Nat → Nat}

/-- The cursor over the span stands at the number of its element. -/
theorem agree_ok {size : Nat} (hk : k ≤ size) (answer : α) :
    Agree size id place (.ok answer ⟨k, memory⟩) (.ok answer ⟨place k, memory⟩) :=
  .ok (k := k) hk answer memory

/-- Failures of one kind agree where both cursors stand at one element. -/
theorem agree_error {size : Nat} (hk : k ≤ size) {fault fault' : Fault}
    (hkind : fault.kind = fault'.kind) :
    Agree size id place (.error fault ⟨k, memory⟩ : EStateM.Result Fault (Standing τ) α)
      (.error fault' ⟨place k, memory⟩) :=
  .error (k := k) hk hkind memory

theorem agree_advance (layout : Layout subject elements place) (hk : k ≤ elements.length) :
    Agree elements.length id place (advance (ofList elements) ⟨k, memory⟩)
      (Move.advance subject ⟨place k, memory⟩) := by
  by_cases hend : k = elements.length
  · subst hend
    rw [advance_end, layout.advance_end]
    exact agree_error hk rfl
  · rw [advance_eq (by omega), layout.advance_eq (by omega)]
    exact agree_ok (by omega) _

/-- A distance that leads out of the span leads out of the collection too. -/
theorem agree_advanceBy (layout : Layout subject elements place) (hk : k ≤ elements.length)
    (distance : Int) :
    Agree elements.length id place (advanceBy distance (ofList elements) ⟨k, memory⟩)
      (Move.advanceBy distance subject ⟨place k, memory⟩) := by
  by_cases hinside : 0 ≤ k + distance ∧ k + distance ≤ elements.length
  · obtain ⟨target, rfl⟩ : ∃ target : Nat, distance = target - k :=
      ⟨(k + distance).toNat, by omega⟩
    rw [advanceBy_eq (by omega), layout.advanceBy_eq hk (by omega)]
    exact agree_ok (by omega) _
  · have hout : k + distance < 0 ∨ elements.length < k + distance := by omega
    obtain ⟨cause, hfails⟩ := layout.advanceBy_outside hk hout
    rw [advanceBy_outside hout, hfails]
    exact agree_error hk rfl

/-- The runs of both kinds of cursor ask the test about the same elements. -/
theorem agree_advanceWhile (layout : Layout subject elements place) (hk : k ≤ elements.length)
    (test : Test τ ε) :
    Agree elements.length id place (advanceWhile test (ofList elements) ⟨k, memory⟩)
      (Move.advanceWhile test subject ⟨place k, memory⟩) := by
  have hle := accepted_le test (elements.drop k) memory
  rw [advanceWhile_eq hk, layout.advanceWhile_eq hk]
  obtain ⟨⟨count, memory', ending⟩, haccepted⟩ :
      ∃ run, accepted test (elements.drop k) memory = run := ⟨_, rfl⟩
  rw [haccepted, List.length_drop] at hle
  have hroom : k + count ≤ elements.length := by omega
  rw [haccepted]
  cases ending with
  | none => exact agree_ok hroom _
  | some fault => exact agree_error hroom rfl

/-- Both kinds of cursor take the same element, or none at the end. -/
theorem agree_pop (layout : Layout subject elements place) (hk : k ≤ elements.length) :
    Agree elements.length id place (pop (ofList elements) ⟨k, memory⟩)
      (Move.pop subject ⟨place k, memory⟩) := by
  by_cases hend : k = elements.length
  · subst hend
    rw [pop_end, layout.pop_end]
    exact agree_ok hk _
  · rw [pop_eq (by omega), layout.pop_eq (by omega)]
    exact agree_ok (by omega) _

theorem agree_popElement [BEq ε] (layout : Layout subject elements place)
    (hk : k ≤ elements.length) (element : ε) :
    Agree elements.length id place (popElement element (ofList elements) ⟨k, memory⟩)
      (Move.popElement element subject ⟨place k, memory⟩) := by
  by_cases hend : k = elements.length
  · subst hend
    rw [popElement_end, layout.popElement_end]
    exact agree_ok hk _
  · rw [popElement_eq (by omega), layout.popElement_eq (by omega)]
    split
    · exact agree_ok (by omega) _
    · exact agree_ok hk _

theorem agree_popWhere (layout : Layout subject elements place) (hk : k ≤ elements.length)
    (test : Test τ ε) :
    Agree elements.length id place (popWhere test (ofList elements) ⟨k, memory⟩)
      (Move.popWhere test subject ⟨place k, memory⟩) := by
  by_cases hend : k = elements.length
  · subst hend
    rw [popWhere_end, layout.popWhere_end]
    exact agree_ok hk _
  · rw [popWhere_eq (by omega), layout.popWhere_eq (by omega)]
    cases test elements[k] memory with
    | error fault memory => exact agree_error hk rfl
    | ok verdict memory =>
      cases verdict with
      | false => exact agree_ok hk _
      | true => exact agree_ok (by omega) _

/-- The window of a read shows the piece that is read from the collection. -/
theorem agree_read (layout : Layout subject elements place) (hk : k ≤ elements.length)
    (count : Int) :
    Agree elements.length id place (shown (read count) (ofList elements) ⟨k, memory⟩)
      ((Scanning.Answer.piece <$> Move.read count) subject ⟨place k, memory⟩) := by
  by_cases hcount : count < 0
  · rw [shown_of_error (read_negative hcount _ _), Move.map_of_error (Move.read_negative hcount)]
    exact agree_error hk rfl
  obtain ⟨count, rfl⟩ : ∃ n : Nat, count = n := ⟨count.toNat, by omega⟩
  by_cases hroom : k + count ≤ elements.length
  · rw [shown_of_ok (read_eq hroom), Move.map_eq_ok.2 ⟨_, layout.read_eq hroom, rfl⟩,
      Option.map_some, Window.items_eq, List.drop_take, Nat.add_sub_cancel_left]
    exact agree_ok hroom _
  · have hshort : elements.length < k + count := by omega
    rw [shown_of_ok (read_short hshort), Move.map_eq_ok.2 ⟨_, layout.read_short hk hshort, rfl⟩]
    exact agree_ok hk _

theorem agree_remainder (layout : Layout subject elements place) (hk : k ≤ elements.length) :
    Agree elements.length id place (shown (some <$> remainder) (ofList elements) ⟨k, memory⟩)
      (((Scanning.Answer.piece ∘ some) <$> Move.remainder) subject ⟨place k, memory⟩) := by
  have hwindow : (some <$> remainder : Move (Span ε) τ (Option Window)) (ofList elements)
      ⟨k, memory⟩ = .ok (some ⟨k, elements.length⟩) ⟨k, memory⟩ :=
    Move.map_eq_ok.2 ⟨_, remainder_eq hk, rfl⟩
  rw [shown_of_ok hwindow, Move.map_eq_ok.2 ⟨_, layout.remainder_eq hk, rfl⟩, Option.map_some,
    Window.items_eq, List.take_length]
  exact agree_ok hk _

/-- The window of a run shows the piece that a run over the collection reads. -/
theorem agree_readWhile (layout : Layout subject elements place) (hk : k ≤ elements.length)
    (test : Test τ ε) :
    Agree elements.length id place
      (shown (some <$> readWhile test) (ofList elements) ⟨k, memory⟩)
      (((Scanning.Answer.piece ∘ some) <$> Move.readWhile test) subject ⟨place k, memory⟩) := by
  have hle := accepted_le test (elements.drop k) memory
  obtain ⟨⟨count, memory', ending⟩, haccepted⟩ :
      ∃ run, accepted test (elements.drop k) memory = run := ⟨_, rfl⟩
  have hspan : readWhile test (ofList elements) ⟨k, memory⟩ = _ := readWhile_eq hk test
  have hcollection : Move.readWhile test subject ⟨place k, memory⟩ = _ :=
    layout.readWhile_eq hk test
  rw [haccepted] at hle hspan hcollection
  rw [List.length_drop] at hle
  cases ending with
  | none =>
    have hwindow : (some <$> readWhile test : Move (Span ε) τ (Option Window)) (ofList elements)
        ⟨k, memory⟩ = .ok (some ⟨k, k + count⟩) ⟨(k + count : Nat), memory'⟩ :=
      Move.map_eq_ok.2 ⟨_, hspan, rfl⟩
    rw [shown_of_ok hwindow, Move.map_eq_ok.2 ⟨_, hcollection, rfl⟩, Option.map_some,
      Window.items_eq, List.drop_take, Nat.add_sub_cancel_left]
    exact agree_ok (by omega) _
  | some fault =>
    rw [shown_of_error (Move.map_of_error hspan), Move.map_of_error hcollection]
    exact agree_error (by omega) rfl

/-- Each operation is answered alike, and leads to the same element. -/
theorem agree_shared [BEq ε] (layout : Layout subject elements place) (hk : k ≤ elements.length)
    (operation : SharedOperation τ ε) :
    Agree elements.length id place (operation.onSpan (ofList elements) ⟨k, memory⟩)
      (operation.onCollection.move subject ⟨place k, memory⟩) := by
  cases operation with
  | isAtEnd =>
    apply Agree.map
    rw [isEmpty_eq, layout.isAtEnd_eq hk]
    exact agree_ok hk _
  | remainder => exact agree_remainder layout hk
  | advance => exact (agree_advance layout hk).map _
  | advanceBy distance => exact (agree_advanceBy layout hk distance).map _
  | advanceWhile test => exact (agree_advanceWhile layout hk test).map _
  | peek =>
    apply Agree.map
    rw [peek_eq, layout.peek_eq hk]
    exact agree_ok hk _
  | peek2 =>
    apply Agree.map
    rw [peek2_eq, layout.peek2_eq hk]
    exact agree_ok hk _
  | peek3 =>
    apply Agree.map
    rw [peek3_eq, layout.peek3_eq hk]
    exact agree_ok hk _
  | pop => exact (agree_pop layout hk).map _
  | popElement element => exact (agree_popElement layout hk element).map _
  | popWhere test => exact (agree_popWhere layout hk test).map _
  | read count => exact agree_read layout hk count
  | readWhile test => exact agree_readWhile layout hk test

/-- The sequence of the elements in memory. -/
def toSequence (span : Span ε) : Sequence ε := ⟨.list, span.items⟩

/-- What a whole run preserves: the place that both cursors have come to. -/
theorem sameRun [BEq ε] (elements : List ε) (hk : k ≤ elements.length) (memory : τ)
    (operations : List (SharedOperation τ ε)) :
    List.Forall₂ (SameOutcome elements.length)
      (SharedOperation.runOnSpan (ofList elements) ⟨k, memory⟩ operations)
      (SharedOperation.runOnCollection (ofList elements).toSequence ⟨k, memory⟩ operations) := by
  induction operations generalizing k memory with
  | nil => exact .nil
  | cons operation others ih =>
    have layout : Layout (ofList elements).toSequence elements id := Sequence.layout _
    have hsame : SameOutcome elements.length
        (Move.outcome (operation.onSpan (ofList elements) ⟨k, memory⟩))
        (Move.outcome (operation.onCollection.move (ofList elements).toSequence ⟨k, memory⟩)) :=
      (agree_shared layout hk operation).sameOutcome
    simp only [SharedOperation.runOnSpan, SharedOperation.runOnCollection, List.map_cons,
      Move.runAll]
    generalize Move.outcome (operation.onSpan (ofList elements) ⟨k, memory⟩) = outcome,
      Move.outcome (operation.onCollection.move (ofList elements).toSequence ⟨k, memory⟩) =
        outcome' at hsame
    cases hsame with
    | intro hreply hnext memory => exact .cons (.intro hreply hnext memory) (ih hnext memory)

/-- Over an open span and over the list of its elements, cursors that begin at the same element
reply alike for as long as they run, and stand at the same element after each move. -/
theorem runAll_agrees [BEq ε] (span : Span ε) (hopen : span.isOpen = true) {k : Nat}
    (hk : k ≤ span.items.size) (memory : τ) (operations : List (SharedOperation τ ε)) :
    span.checkPosition k = .ok () ∧
      Cursor.at? span.toSequence k = .ok ⟨span.toSequence, k⟩ ∧
      List.Forall₂ (SameOutcome span.items.size)
        (SharedOperation.runOnSpan span ⟨k, memory⟩ operations)
        (SharedOperation.runOnCollection span.toSequence ⟨k, memory⟩ operations) := by
  have hlength : span.items.toList.length = span.items.size := Array.length_toList
  have hsequence : IndexSpace.endIndex span.toSequence = span.items.size := rfl
  refine ⟨?_, ?_, ?_⟩
  · simp only [checkPosition, length, hopen, ↓reduceIte, bind, Except.bind]
    rw [if_pos ⟨by omega, by omega⟩]
    rfl
  · rw [Cursor.at?, if_pos ⟨by omega, by omega⟩]
  · have hrun := sameRun span.items.toList (hlength ▸ hk) memory operations
    rw [ofList_toList hopen, hlength] at hrun
    exact hrun

/-- Three bytes, read on from the second one, with a test that fails the second time it is asked. -/
theorem runAll_agrees_failing_test :
    (ofList [(7 : UInt8), 8, 9]).isOpen = true ∧
      1 ≤ (ofList [(7 : UInt8), 8, 9]).items.size ∧
      (ofList [(7 : UInt8), 8, 9]).checkPosition (1 : Nat) = .ok () ∧
      Cursor.at? (ofList [(7 : UInt8), 8, 9]).toSequence (1 : Nat) =
        .ok ⟨(ofList [(7 : UInt8), 8, 9]).toSequence, (1 : Nat)⟩ ∧
      List.Forall₂ (SameOutcome (ofList [(7 : UInt8), 8, 9]).items.size)
        (SharedOperation.runOnSpan (ofList [(7 : UInt8), 8, 9]) ⟨(1 : Nat), 0⟩
          [.readWhile fun _ asked => if asked = 0 then .ok true 1 else .error .raised asked,
            .read 2, .advanceBy (-3), .read 1])
        (SharedOperation.runOnCollection (ofList [(7 : UInt8), 8, 9]).toSequence ⟨(1 : Nat), 0⟩
          [.readWhile fun _ asked => if asked = 0 then .ok true 1 else .error .raised asked,
            .read 2, .advanceBy (-3), .read 1]) :=
  ⟨rfl, by decide,
    runAll_agrees (ofList [(7 : UInt8), 8, 9]) rfl (k := 1) (by decide) (0 : Nat) _⟩

end Span

end Scanning
