import Scanning.Proofs.Agreement.Span

namespace Scanning

variable {σ τ ε α β : Type}

/-- What can be asked of a cursor over a span: the operations that check their bounds, and those
that leave this to the caller. -/
inductive SpanOperation (τ ε : Type) where
  | checked (operation : SharedOperation τ ε)
  | uncheckedAdvance
  | uncheckedAdvanceBy (distance : Int)
  | uncheckedPop

/-- The test that an operation asks, if it asks one. -/
def SharedOperation.test? : SharedOperation τ ε → Option (Test τ ε)
  | advanceWhile test | popWhere test | readWhile test => some test
  | _ => none

/-- The test that the operation asks fails like this at one of the elements. -/
def SharedOperation.TestFails (elements : List ε) (operation : SharedOperation τ ε)
    (fault : Fault) : Prop :=
  ∃ test, operation.test? = some test ∧
    ∃ element ∈ elements, ∃ asked told, test element asked = .error fault told

namespace SpanOperation

/-- The move that an operation makes. -/
def move [BEq ε] : SpanOperation τ ε → Move (Span ε) τ (Answer ε)
  | checked operation => operation.onSpan
  | uncheckedAdvance => (fun _ => .nothing) <$> Span.uncheckedAdvance
  | uncheckedAdvanceBy distance => (fun _ => .nothing) <$> Span.uncheckedAdvanceBy distance
  | uncheckedPop => (fun element => .element (some element)) <$> Span.uncheckedPop

/-- One operation of a run, from where the cursor stood before to where it stands after. -/
structure Step (τ ε : Type) where
  operation : SpanOperation τ ε
  before : Standing τ
  reply : Except Fault (Answer ε)
  after : Standing τ

/-- The step that an operation makes. -/
def step [BEq ε] (span : Span ε) (standing : Standing τ) (operation : SpanOperation τ ε) :
    Step τ ε :=
  let outcome := Move.outcome (operation.move span standing)
  ⟨operation, standing, outcome.1, outcome.2⟩

/-- The steps of a run, each begun where the one before has led. An operation that fails does not
end the run. -/
def steps [BEq ε] (span : Span ε) (standing : Standing τ) :
    List (SpanOperation τ ε) → List (Step τ ε)
  | [] => []
  | operation :: others =>
    let first := operation.step span standing
    first :: steps span first.after others

/-- How an operation over a span of these elements may fail. A test fails as it likes; apart from
that, checked operations complain about bounds and counts only. -/
inductive MayFail (elements : List ε) : SpanOperation τ ε → Fault → Prop where
  | advance : MayFail elements (.checked .advance) (.outOfBounds .spanExhausted)
  | advanceBy (distance place : Int) : MayFail elements (.checked (.advanceBy distance))
      (.outOfBounds (.pastEither distance place elements.length))
  | read {count : Int} (hcount : count < 0) :
      MayFail elements (.checked (.read count)) (.negativeCount count)
  | test {operation : SharedOperation τ ε} {fault : Fault}
      (htest : operation.TestFails elements fault) : MayFail elements (.checked operation) fault
  | uncheckedAdvance : MayFail elements .uncheckedAdvance .unmet
  | uncheckedAdvanceBy (distance : Int) : MayFail elements (.uncheckedAdvanceBy distance) .unmet
  | uncheckedPop : MayFail elements .uncheckedPop .unmet

end SpanOperation

namespace Span

/-- An outcome that leaves the cursor at one of so many elements or at their end, and fails only in
certain ways. -/
inductive Lands (size : Nat) (fails : Fault → Prop) :
    EStateM.Result Fault (Standing τ) α → Prop where
  | ok {k : Nat} (hk : k ≤ size) (answer : α) (memory : τ) :
      Lands size fails (.ok answer ⟨k, memory⟩)
  | error {k : Nat} (hk : k ≤ size) {fault : Fault} (hfault : fails fault) (memory : τ) :
      Lands size fails (.error fault ⟨k, memory⟩)

/-- A look leaves the cursor where it is. -/
theorem Lands.of_eq {size k : Nat} {fails : Fault → Prop} {memory : τ} {answer : α}
    {outcome : EStateM.Result Fault (Standing τ) α} (h : outcome = .ok answer ⟨k, memory⟩)
    (hk : k ≤ size) : Lands size fails outcome := by
  rw [h]
  exact .ok hk answer memory

/-- What is made of the answer has no part in where a move lands. -/
theorem Lands.map {size : Nat} {fails : Fault → Prop} {move : Move σ τ α} {subject : σ}
    {standing : Standing τ} (h : Lands size fails (move subject standing)) (f : α → β) :
    Lands size fails ((f <$> move) subject standing) := by
  generalize houtcome : move subject standing = outcome at h
  cases h with
  | ok hk answer memory =>
    rw [Move.map_eq_ok.2 ⟨answer, houtcome, rfl⟩]
    exact .ok hk (f answer) memory
  | error hk hfault memory =>
    rw [Move.map_of_error houtcome]
    exact .error hk hfault memory

variable {elements : List ε} {k : Nat} {memory : τ} {fails : Fault → Prop}

/-- Showing the elements of a window does not change where the move lands that gives it. -/
theorem Lands.shown {size : Nat} {move : Move (Span ε) τ (Option Window)} {standing : Standing τ}
    (h : Lands size fails (move (ofList elements) standing)) :
    Lands size fails (shown move (ofList elements) standing) := by
  generalize houtcome : move (ofList elements) standing = outcome at h
  cases h with
  | ok hk window memory =>
    rw [shown_of_ok houtcome]
    exact .ok hk _ memory
  | error hk hfault memory =>
    rw [shown_of_error houtcome]
    exact .error hk hfault memory

/-- A run of accepted elements fails only if the test fails at one of the elements. -/
theorem exists_of_accepted {test : Test τ ε} {list : List ε} {memory memory' : τ} {count : Nat}
    {fault : Fault} (h : accepted test list memory = (count, memory', some fault)) :
    ∃ element ∈ list, ∃ asked told, test element asked = .error fault told := by
  fun_induction accepted test list memory generalizing count memory' with
  | case1 | case3 => cases h
  | case2 x rest memory fault' told htest =>
    cases h
    exact ⟨x, List.mem_cons_self, memory, _, htest⟩
  | case4 x rest memory told htest count' ending hrest ih =>
    cases h
    obtain ⟨element, hmem, hfails⟩ := ih hrest
    exact ⟨element, List.mem_cons_of_mem x hmem, hfails⟩

/-- Advancing under a test lands in the span and fails only as the test does. -/
theorem lands_advanceWhile (hk : k ≤ elements.length) (test : Test τ ε)
    (hfails : ∀ fault, (∃ element ∈ elements, ∃ asked told,
      test element asked = .error fault told) → fails fault) :
    Lands elements.length fails (advanceWhile test (ofList elements) ⟨k, memory⟩) := by
  have hle := accepted_le test (elements.drop k) memory
  rw [advanceWhile_eq hk]
  obtain ⟨⟨count, memory', ending⟩, haccepted⟩ :
      ∃ run, accepted test (elements.drop k) memory = run := ⟨_, rfl⟩
  rw [haccepted, List.length_drop] at hle
  have hroom : k + count ≤ elements.length := by omega
  rw [haccepted]
  cases ending with
  | none => exact .ok (k := k + count) hroom () memory'
  | some fault =>
    obtain ⟨element, hmem, hasked⟩ := exists_of_accepted haccepted
    have hfault := hfails fault ⟨element, List.mem_of_mem_drop hmem, hasked⟩
    exact .error (k := k + count) hroom hfault memory'

theorem lands_readWhile (hk : k ≤ elements.length) (test : Test τ ε)
    (hfails : ∀ fault, (∃ element ∈ elements, ∃ asked told,
      test element asked = .error fault told) → fails fault) :
    Lands elements.length fails (readWhile test (ofList elements) ⟨k, memory⟩) := by
  have hle := accepted_le test (elements.drop k) memory
  rw [readWhile_eq hk]
  obtain ⟨⟨count, memory', ending⟩, haccepted⟩ :
      ∃ run, accepted test (elements.drop k) memory = run := ⟨_, rfl⟩
  rw [haccepted, List.length_drop] at hle
  have hroom : k + count ≤ elements.length := by omega
  rw [haccepted]
  cases ending with
  | none => exact .ok hroom _ memory'
  | some fault =>
    obtain ⟨element, hmem, hasked⟩ := exists_of_accepted haccepted
    exact .error hroom (hfails fault ⟨element, List.mem_of_mem_drop hmem, hasked⟩) memory'

theorem lands_popWhere (hk : k ≤ elements.length) (test : Test τ ε)
    (hfails : ∀ fault, (∃ element ∈ elements, ∃ asked told,
      test element asked = .error fault told) → fails fault) :
    Lands elements.length fails (popWhere test (ofList elements) ⟨k, memory⟩) := by
  by_cases hend : k = elements.length
  · subst hend
    rw [popWhere_end]
    exact .ok hk none memory
  rw [popWhere_eq (by omega)]
  cases htest : test elements[k] memory with
  | error fault told =>
    exact .error hk (hfails fault ⟨elements[k], List.getElem_mem _, memory, told, htest⟩) told
  | ok verdict told =>
    cases verdict with
    | false => exact .ok hk none told
    | true => exact .ok (by omega) (some elements[k]) told

/-- Reading some elements lands in the span and fails only for a negative number. -/
theorem lands_read (hk : k ≤ elements.length) (count : Int)
    (hfails : count < 0 → fails (.negativeCount count)) :
    Lands elements.length fails (read count (ofList elements) ⟨k, memory⟩) := by
  by_cases hcount : count < 0
  · rw [read_negative hcount]
    exact .error hk (hfails hcount) memory
  obtain ⟨count, rfl⟩ : ∃ n : Nat, count = n := ⟨count.toNat, by omega⟩
  by_cases hroom : k + count ≤ elements.length
  · rw [read_eq hroom]
    exact .ok hroom _ memory
  · rw [read_short (by omega)]
    exact .ok hk none memory

theorem lands_advance (hk : k ≤ elements.length)
    (hfails : fails (.outOfBounds .spanExhausted)) :
    Lands elements.length fails (advance (ofList elements) ⟨k, memory⟩) := by
  by_cases hend : k = elements.length
  · subst hend
    rw [advance_end]
    exact .error hk hfails memory
  · rw [advance_eq (by omega)]
    exact .ok (by omega) () memory

/-- Advancing by a distance lands in the span and fails only when the target is outside. -/
theorem lands_advanceBy (hk : k ≤ elements.length) (distance : Int)
    (hfails : fails (.outOfBounds (.pastEither distance k elements.length))) :
    Lands elements.length fails (advanceBy distance (ofList elements) ⟨k, memory⟩) := by
  by_cases hinside : 0 ≤ k + distance ∧ k + distance ≤ elements.length
  · obtain ⟨target, rfl⟩ : ∃ target : Nat, distance = target - k :=
      ⟨(k + distance).toNat, by omega⟩
    rw [advanceBy_eq (by omega)]
    exact .ok (by omega) () memory
  · rw [advanceBy_outside (by omega)]
    exact .error hk hfails memory

theorem lands_pop (hk : k ≤ elements.length) :
    Lands elements.length fails (pop (ofList elements) ⟨k, memory⟩) := by
  by_cases hend : k = elements.length
  · subst hend
    rw [pop_end]
    exact .ok hk none memory
  · rw [pop_eq (by omega)]
    exact .ok (by omega) (some elements[k]) memory

theorem lands_popElement [BEq ε] (hk : k ≤ elements.length) (element : ε) :
    Lands elements.length fails (popElement element (ofList elements) ⟨k, memory⟩) := by
  by_cases hend : k = elements.length
  · subst hend
    rw [popElement_end]
    exact .ok hk false memory
  · rw [popElement_eq (by omega)]
    split
    · exact .ok (by omega) true memory
    · exact .ok hk false memory

theorem lands_uncheckedAdvance (hk : k ≤ elements.length) (hfails : fails .unmet) :
    Lands elements.length fails (uncheckedAdvance (ofList elements) ⟨k, memory⟩) := by
  by_cases hend : k = elements.length
  · subst hend
    rw [uncheckedAdvance_end]
    exact .error hk hfails memory
  · rw [uncheckedAdvance_eq (by omega)]
    exact .ok (by omega) () memory

/-- An unchecked step by a distance lands in the span and fails only when its precondition is not
met. -/
theorem lands_uncheckedAdvanceBy (hk : k ≤ elements.length) (distance : Int)
    (hfails : fails .unmet) :
    Lands elements.length fails (uncheckedAdvanceBy distance (ofList elements) ⟨k, memory⟩) := by
  by_cases hinside : 0 ≤ k + distance ∧ k + distance ≤ elements.length
  · obtain ⟨target, rfl⟩ : ∃ target : Nat, distance = target - k :=
      ⟨(k + distance).toNat, by omega⟩
    rw [uncheckedAdvanceBy_eq (by omega)]
    exact .ok (by omega) () memory
  · rw [uncheckedAdvanceBy_outside (by omega)]
    exact .error hk hfails memory

theorem lands_uncheckedPop (hk : k ≤ elements.length) (hfails : fails .unmet) :
    Lands elements.length fails (uncheckedPop (ofList elements) ⟨k, memory⟩) := by
  by_cases hend : k = elements.length
  · subst hend
    rw [uncheckedPop_end]
    exact .error hk hfails memory
  · rw [uncheckedPop_eq (by omega)]
    exact .ok (by omega) elements[k] memory

end Span

namespace SpanOperation

variable {elements : List ε} {k : Nat} {memory : τ}

/-- One case for each operation: where it leads, and how it may fail. -/
theorem lands_move [BEq ε] (hk : k ≤ elements.length) (operation : SpanOperation τ ε) :
    Span.Lands elements.length (operation.MayFail elements)
      (operation.move (Span.ofList elements) ⟨k, memory⟩) := by
  cases operation with
  | checked operation =>
    cases operation with
    | isAtEnd => exact (Span.Lands.of_eq Span.isEmpty_eq hk).map _
    | remainder => exact ((Span.Lands.of_eq (Span.remainder_eq hk) hk).map some).shown
    | advance => exact (Span.lands_advance hk .advance).map _
    | advanceBy distance =>
      exact (Span.lands_advanceBy hk distance (.advanceBy distance k)).map _
    | advanceWhile test =>
      exact (Span.lands_advanceWhile hk test fun _ hfails => .test ⟨test, rfl, hfails⟩).map _
    | peek => exact (Span.Lands.of_eq Span.peek_eq hk).map _
    | peek2 => exact (Span.Lands.of_eq Span.peek2_eq hk).map _
    | peek3 => exact (Span.Lands.of_eq Span.peek3_eq hk).map _
    | pop => exact (Span.lands_pop hk).map _
    | popElement element => exact (Span.lands_popElement hk element).map _
    | popWhere test =>
      exact (Span.lands_popWhere hk test fun _ hfails => .test ⟨test, rfl, hfails⟩).map _
    | read count => exact (Span.lands_read hk count .read).shown
    | readWhile test =>
      have hlands : Span.Lands elements.length (MayFail elements (.checked (.readWhile test)))
          (Span.readWhile test (Span.ofList elements) ⟨k, memory⟩) :=
        Span.lands_readWhile hk test fun _ hfails => .test ⟨test, rfl, hfails⟩
      exact (hlands.map some).shown
  | uncheckedAdvance => exact (Span.lands_uncheckedAdvance hk .uncheckedAdvance).map _
  | uncheckedAdvanceBy distance =>
    exact (Span.lands_uncheckedAdvanceBy hk distance (.uncheckedAdvanceBy distance)).map _
  | uncheckedPop => exact (Span.lands_uncheckedPop hk .uncheckedPop).map _

end SpanOperation

/-- The cursor stands between the start and the end of the span, and counts the elements that are
left. -/
structure Span.Inside (span : Span ε) (standing : Standing τ) : Prop where
  nonneg : 0 ≤ standing.position
  le_size : standing.position ≤ span.items.size
  count_eq : Span.count span standing = .ok (span.items.size - standing.position) standing

theorem Span.inside_of_le {elements : List ε} {k : Nat} (hk : k ≤ elements.length) (memory : τ) :
    (ofList elements).Inside (⟨k, memory⟩ : Standing τ) where
  nonneg := Int.natCast_nonneg k
  le_size := Int.ofNat_le.2 hk
  count_eq := rfl

/-- The failure of an assertion, or of an access out of range. -/
inductive Fault.IsSlip : Fault → Prop where
  | unmet : IsSlip .unmet
  | noElement (kind : SequenceKind) : IsSlip (.noElement kind)

namespace SpanOperation

/-- What holds of a step that keeps to the bounds of the span. -/
structure Step.Safe (span : Span ε) (step : Step τ ε) : Prop where
  before : span.Inside step.before
  after : span.Inside step.after
  fails : ∀ fault, step.reply = .error fault → step.operation.MayFail span.items.toList fault
  slips : ∀ operation fault, step.operation = .checked operation → step.reply = .error fault →
    fault.IsSlip → operation.TestFails span.items.toList fault

/-- A checked operation slips only if its test does. -/
theorem MayFail.testFails {elements : List ε} {operation : SharedOperation τ ε} {fault : Fault}
    (h : MayFail elements (.checked operation) fault) (hslip : fault.IsSlip) :
    operation.TestFails elements fault := by
  cases h with
  | advance | advanceBy | read => cases hslip
  | test htest => exact htest

/-- What a whole run preserves: the cursor stands at an element or at the end. -/
theorem steps_safe [BEq ε] {elements : List ε} {k : Nat} (hk : k ≤ elements.length) (memory : τ)
    (operations : List (SpanOperation τ ε)) :
    ∀ step ∈ steps (Span.ofList elements) ⟨k, memory⟩ operations,
      step.Safe (Span.ofList elements) := by
  induction operations generalizing k memory with
  | nil => simp [steps]
  | cons operation others ih =>
    have hlands : Span.Lands elements.length (operation.MayFail elements)
        (operation.move (Span.ofList elements) ⟨k, memory⟩) := lands_move hk operation
    rw [steps, step]
    generalize operation.move (Span.ofList elements) ⟨k, memory⟩ = outcome at hlands
    cases hlands with
    | @ok next hnext answer memory' =>
      rw [List.forall_mem_cons]
      refine ⟨⟨Span.inside_of_le hk memory, Span.inside_of_le hnext memory', ?_, ?_⟩,
        ih hnext memory'⟩
      · rintro fault ⟨⟩
      · rintro _ fault - ⟨⟩
    | @error next hnext fault hfault memory' =>
      rw [List.forall_mem_cons]
      refine ⟨⟨Span.inside_of_le hk memory, Span.inside_of_le hnext memory', ?_, ?_⟩,
        ih hnext memory'⟩
      · rintro _ ⟨⟩
        exact hfault
      · rintro checked _ hchecked ⟨⟩ hslip
        obtain rfl : operation = .checked checked := hchecked
        exact hfault.testFails hslip

end SpanOperation

end Scanning
