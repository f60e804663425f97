import Scanning.Proofs.Layout.Taking

namespace Scanning

open IndexSpace

/-- What a handler tells failures apart by. -/
inductive FaultKind where
  | bounds
  | index
  | decoding
  | value
  | type
  | pattern
  | validation
  | parse
  | underrun
  | lexing
  | framing
  | raised
  | assertion
  | buffer
  | packing
  | overflow
  | attribute
  | missingFile
  | directory
  | notDirectory
  deriving DecidableEq, Repr

/-- The kind of a failure. -/
def Fault.kind : Fault → FaultKind
  | outOfBounds _ => .bounds
  | noElement _ | arrayIndex => .index
  | malformed _ => .decoding
  | negativeCount _ | notAByte | notAllBytes | released => .value
  | unsuitable | unmatchable _ | patternAlphabet _ | readOnly | singleOwner | fixedItem => .type
  | badPattern => .pattern
  | invalidFields _ => .validation
  | parse failure =>
    match failure.reader with
    | .general => .parse
    | .span => .underrun
    | .lexer => .lexing
    | .frames => .framing
  | raised => .raised
  | unmet => .assertion
  | resizeHeldBytes | resizeHeldArray => .buffer
  | wrongSize _ => .packing
  | tagTooBig | tagNegative | outsideNumber _ _ => .overflow
  | fixedSize => .attribute
  | unreadable .missing _ => .missingFile
  | unreadable .directory _ => .directory
  | unreadable .notDirectory _ => .notDirectory
  | unreadable .nulInPath _ => .value

variable {σ ρ τ ε α β : Type} [IndexSpace σ ε] [IndexSpace ρ ε]

/-- The outcomes of a move over two subjects: the same answer or failures of one kind, the same
memory, and cursors that stand at the same element. -/
inductive Agree (size : Nat) (place place' : Nat → Nat) :
    EStateM.Result Fault (Standing τ) α → EStateM.Result Fault (Standing τ) α → Prop where
  | ok {k : Nat} (hk : k ≤ size) (answer : α) (memory : τ) :
      Agree size place place' (.ok answer ⟨place k, memory⟩) (.ok answer ⟨place' k, memory⟩)
  | error {k : Nat} (hk : k ≤ size) {fault fault' : Fault} (hkind : fault.kind = fault'.kind)
      (memory : τ) :
      Agree size place place' (.error fault ⟨place k, memory⟩) (.error fault' ⟨place' k, memory⟩)

/-- Outcomes that agree still do when both answers are put through one function. -/
theorem Agree.map {size : Nat} {place place' : Nat → Nat} {move : Move σ τ α} {move' : Move ρ τ α}
    {subject : σ} {subject' : ρ} {standing standing' : Standing τ} (f : α → β)
    (h : Agree size place place' (move subject standing) (move' subject' standing')) :
    Agree size place place' ((f <$> move) subject standing) ((f <$> move') subject' standing') := by
  simp only [Functor.map, EStateM.map]
  generalize move subject standing = outcome, move' subject' standing' = outcome' at h
  cases h with
  | ok hk answer memory => exact .ok hk _ memory
  | error hk hkind memory => exact .error hk hkind memory

namespace Layout

variable {subject : σ} {subject' : ρ} {elements : List ε} {place place' : Nat → Nat} {k : Nat}
  {memory : τ}

/-- Both cursors are refused at the end and step over one element in front of it. -/
theorem agree_advance (layout : Layout subject elements place)
    (layout' : Layout subject' elements place') (hk : k ≤ elements.length) :
    Agree elements.length place place' (Move.advance subject ⟨place k, memory⟩)
      (Move.advance subject' ⟨place' k, memory⟩) := by
  by_cases hend : k = elements.length
  · subst hend
    rw [layout.advance_end, layout'.advance_end]
    exact .error hk rfl _
  · rw [layout.advance_eq (by omega), layout'.advance_eq (by omega)]
    exact .ok (by omega) _ _

/-- Moves by a distance arrive at the same element, or are both refused because they would leave the
subject, each in its own words. -/
theorem agree_advanceBy (layout : Layout subject elements place)
    (layout' : Layout subject' elements place') (hk : k ≤ elements.length) (distance : Int) :
    Agree elements.length place place' (Move.advanceBy distance subject ⟨place k, memory⟩)
      (Move.advanceBy distance subject' ⟨place' k, memory⟩) := by
  by_cases hinside : 0 ≤ k + distance ∧ k + distance ≤ elements.length
  · obtain ⟨target, rfl⟩ : ∃ target : Nat, distance = target - k :=
      ⟨(k + distance).toNat, by omega⟩
    rw [layout.advanceBy_eq hk (by omega), layout'.advanceBy_eq hk (by omega)]
    exact .ok (by omega) _ _
  · have hout : k + distance < 0 ∨ elements.length < k + distance := by omega
    obtain ⟨cause, hfails⟩ := layout.advanceBy_outside hk hout
    obtain ⟨cause', hfails'⟩ := layout'.advanceBy_outside hk hout
    rw [hfails, hfails']
    exact .error hk (show (Fault.outOfBounds cause).kind = (Fault.outOfBounds cause').kind from rfl)
      memory

/-- The test is asked about the same elements, so both runs end at the same one, also when the test
fails. -/
theorem agree_advanceWhile (layout : Layout subject elements place)
    (layout' : Layout subject' elements place') (hk : k ≤ elements.length) (test : Test τ ε) :
    Agree elements.length place place' (Move.advanceWhile test subject ⟨place k, memory⟩)
      (Move.advanceWhile test subject' ⟨place' k, memory⟩) := by
  have hle := accepted_le test (elements.drop k) memory
  rw [layout.advanceWhile_eq hk, layout'.advanceWhile_eq hk]
  obtain ⟨⟨count, memory', ending⟩, haccepted⟩ :
      ∃ run, accepted test (elements.drop k) memory = run := ⟨_, rfl⟩
  rw [haccepted, List.length_drop] at hle
  rw [haccepted]
  cases ending with
  | none => exact .ok (by omega) _ _
  | some fault => exact .error (by omega) rfl _

/-- What runs read is the same piece, and a test that fails does so at the same element. -/
theorem agree_readWhile (layout : Layout subject elements place)
    (layout' : Layout subject' elements place') (hk : k ≤ elements.length) (test : Test τ ε) :
    Agree elements.length place place' (Move.readWhile test subject ⟨place k, memory⟩)
      (Move.readWhile test subject' ⟨place' k, memory⟩) := by
  have hle := accepted_le test (elements.drop k) memory
  rw [layout.readWhile_eq hk, layout'.readWhile_eq hk]
  obtain ⟨⟨count, memory', ending⟩, haccepted⟩ :
      ∃ run, accepted test (elements.drop k) memory = run := ⟨_, rfl⟩
  rw [haccepted, List.length_drop] at hle
  rw [haccepted]
  cases ending with
  | none => exact .ok (by omega) _ _
  | some fault => exact .error (by omega) rfl _

theorem agree_pop (layout : Layout subject elements place)
    (layout' : Layout subject' elements place') (hk : k ≤ elements.length) :
    Agree elements.length place place' (Move.pop subject ⟨place k, memory⟩)
      (Move.pop subject' ⟨place' k, memory⟩) := by
  by_cases hend : k = elements.length
  · subst hend
    rw [layout.pop_end, layout'.pop_end]
    exact .ok hk _ _
  · rw [layout.pop_eq (by omega), layout'.pop_eq (by omega)]
    exact .ok (by omega) _ _

theorem agree_popElement [BEq ε] (layout : Layout subject elements place)
    (layout' : Layout subject' elements place') (hk : k ≤ elements.length) (element : ε) :
    Agree elements.length place place' (Move.popElement element subject ⟨place k, memory⟩)
      (Move.popElement element subject' ⟨place' k, memory⟩) := by
  by_cases hend : k = elements.length
  · subst hend
    rw [layout.popElement_end, layout'.popElement_end]
    exact .ok hk _ _
  · rw [layout.popElement_eq (by omega), layout'.popElement_eq (by omega)]
    split
    · exact .ok (by omega) _ _
    · exact .ok hk _ _

/-- The test is asked about the same element with the same memory, so both cursors take it or
neither does. -/
theorem agree_popWhere (layout : Layout subject elements place)
    (layout' : Layout subject' elements place') (hk : k ≤ elements.length) (test : Test τ ε) :
    Agree elements.length place place' (Move.popWhere test subject ⟨place k, memory⟩)
      (Move.popWhere test subject' ⟨place' k, memory⟩) := by
  by_cases hend : k = elements.length
  · subst hend
    rw [layout.popWhere_end, layout'.popWhere_end]
    exact .ok hk _ _
  · rw [layout.popWhere_eq (by omega), layout'.popWhere_eq (by omega)]
    split
    · exact .error hk rfl _
    · exact .ok hk _ _
    · exact .ok (by omega) _ _

/-- A negative count is refused by both, and a count beyond the end reads nothing on either side. -/
theorem agree_read (layout : Layout subject elements place)
    (layout' : Layout subject' elements place') (hk : k ≤ elements.length) (count : Int) :
    Agree elements.length place place' (Move.read count subject ⟨place k, memory⟩)
      (Move.read count subject' ⟨place' k, memory⟩) := by
  by_cases hcount : count < 0
  · rw [Move.read_negative hcount, Move.read_negative hcount]
    exact .error hk rfl _
  obtain ⟨count, rfl⟩ : ∃ n : Nat, count = n := ⟨count.toNat, by omega⟩
  by_cases hroom : k + count ≤ elements.length
  · rw [layout.read_eq hroom, layout'.read_eq hroom]
    exact .ok hroom _ _
  · rw [layout.read_short hk (by omega), layout'.read_short hk (by omega)]
    exact .ok hk _ _

theorem agree_readPrefix [BEq ε] (layout : Layout subject elements place)
    (layout' : Layout subject' elements place') (hk : k ≤ elements.length) (expected : List ε) :
    Agree elements.length place place' (Move.readPrefix expected subject ⟨place k, memory⟩)
      (Move.readPrefix expected subject' ⟨place' k, memory⟩) := by
  rw [layout.readPrefix_eq hk, layout'.readPrefix_eq hk]
  by_cases hgoes : goesOn (elements.drop k) expected = true
  · have hroom := length_le_of_goesOn hgoes
    rw [List.length_drop] at hroom
    rw [if_pos hgoes, if_pos hgoes]
    exact .ok (by omega) _ _
  · rw [if_neg hgoes, if_neg hgoes]
    exact .ok hk _ _

end Layout

end Scanning
