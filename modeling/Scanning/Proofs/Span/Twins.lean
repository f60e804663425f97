import Scanning.Proofs.Span.Safety

namespace Scanning

variable {τ ε : Type}

namespace SpanOperation

/-- The second operation is the first one, or its unchecked twin. -/
inductive Replaces : SpanOperation τ ε → SpanOperation τ ε → Prop where
  | kept (operation : SpanOperation τ ε) : Replaces operation operation
  | advance : Replaces (.checked .advance) .uncheckedAdvance
  | advanceBy (distance : Int) :
      Replaces (.checked (.advanceBy distance)) (.uncheckedAdvanceBy distance)
  | pop : Replaces (.checked .pop) .uncheckedPop

/-- What the caller of the unchecked twin has to know, where there is one: that an element is left,
or that the target is in the span. -/
def Precondition (size : Nat) (position : Int) : SpanOperation τ ε → Prop
  | checked .advance | checked .pop => position < size
  | checked (.advanceBy distance) => 0 ≤ position + distance ∧ position + distance ≤ size
  | _ => True

/-- How the checked form is refused where the precondition does not hold. -/
inductive Refusal (size : Nat) (position : Int) :
    SpanOperation τ ε → Except Fault (Answer ε) → Prop where
  | advance : Refusal size position (.checked .advance) (.error (.outOfBounds .spanExhausted))
  | advanceBy (distance : Int) : Refusal size position (.checked (.advanceBy distance))
      (.error (.outOfBounds (.pastEither distance position size)))
  | pop : Refusal size position (.checked .pop) (.ok (.element none))

/-- How a step compares to the step whose operation is replaced. -/
structure Step.Twin (size : Nat) (step step' : Step τ ε) : Prop where
  replaces : Replaces step.operation step'.operation
  before : step'.before = step.before
  same : step'.operation = step.operation ∨
      step.operation.Precondition size step.before.position →
    step'.reply = step.reply ∧ step'.after = step.after
  refused : step'.operation ≠ step.operation →
      ¬ step.operation.Precondition size step.before.position →
    Refusal size step.before.position step.operation step.reply ∧ step'.reply = .error .unmet ∧
      step.after = step.before ∧ step'.after = step.before

namespace Step.Twin

variable {size : Nat} {operation operation' : SpanOperation τ ε} {before : Standing τ}
  {reply : Except Fault (Answer ε)}

/-- Where the precondition holds the twins end alike. -/
theorem of_met (hreplaces : Replaces operation operation')
    (hmet : operation.Precondition size before.position) (reply : Except Fault (Answer ε))
    (after : Standing τ) :
    Twin size ⟨operation, before, reply, after⟩ ⟨operation', before, reply, after⟩ where
  replaces := hreplaces
  before := rfl
  same _ := ⟨rfl, rfl⟩
  refused _ hunmet := absurd hmet hunmet

/-- Where the precondition does not hold the checked form is refused, the unchecked one is not
defined, and both stay. -/
theorem of_unmet (hreplaces : Replaces operation operation') (hne : operation' ≠ operation)
    (hunmet : ¬ operation.Precondition size before.position)
    (hrefusal : Refusal size before.position operation reply) :
    Twin size ⟨operation, before, reply, before⟩ ⟨operation', before, .error .unmet, before⟩ where
  replaces := hreplaces
  before := rfl
  same h := absurd h (not_or.2 ⟨hne, hunmet⟩)
  refused _ _ := ⟨hrefusal, rfl, rfl, rfl⟩

/-- Twins lead to the same place, whether they move or not. -/
theorem after_eq {step step' : Step τ ε} (h : Twin size step step') : step'.after = step.after := by
  by_cases hsame : step'.operation = step.operation ∨
      step.operation.Precondition size step.before.position
  · exact (h.same hsame).2
  · obtain ⟨hne, hunmet⟩ := not_or.1 hsame
    obtain ⟨-, -, hafter, hafter'⟩ := h.refused hne hunmet
    rw [hafter, hafter']

end Step.Twin

variable {elements : List ε} {k : Nat} [BEq ε] {operation operation' : SpanOperation τ ε}

theorem twin_advance (hk : k ≤ elements.length) (memory : τ) :
    Step.Twin elements.length (step (Span.ofList elements) ⟨k, memory⟩ (.checked .advance))
      (step (Span.ofList elements) ⟨k, memory⟩ .uncheckedAdvance) := by
  by_cases hend : k = elements.length
  · subst hend
    have hchecked : move (.checked .advance) (Span.ofList elements) ⟨elements.length, memory⟩ = _ :=
      Move.map_of_error Span.advance_end
    have hunchecked : move .uncheckedAdvance (Span.ofList elements) ⟨elements.length, memory⟩ = _ :=
      Move.map_of_error Span.uncheckedAdvance_end
    simp only [step, hchecked, hunchecked]
    exact .of_unmet .advance (by rintro ⟨⟩) (Int.lt_irrefl _) .advance
  · have hlt : k < elements.length := by omega
    have hchecked : move (.checked .advance) (Span.ofList elements) ⟨k, memory⟩ = _ :=
      Move.map_eq_ok.2 ⟨(), Span.advance_eq hlt, rfl⟩
    have hunchecked : move .uncheckedAdvance (Span.ofList elements) ⟨k, memory⟩ = _ :=
      Move.map_eq_ok.2 ⟨(), Span.uncheckedAdvance_eq hlt, rfl⟩
    simp only [step, hchecked, hunchecked]
    have hmet : Precondition elements.length k (.checked .advance : SpanOperation τ ε) :=
      Int.ofNat_lt.2 hlt
    exact .of_met .advance hmet _ _

theorem twin_advanceBy (distance : Int) (memory : τ) :
    Step.Twin elements.length
      (step (Span.ofList elements) ⟨k, memory⟩ (.checked (.advanceBy distance)))
      (step (Span.ofList elements) ⟨k, memory⟩ (.uncheckedAdvanceBy distance)) := by
  by_cases hinside : 0 ≤ k + distance ∧ k + distance ≤ elements.length
  · obtain ⟨target, rfl⟩ : ∃ target : Nat, distance = target - k :=
      ⟨(k + distance).toNat, by omega⟩
    have hle : target ≤ elements.length := by omega
    have hchecked : move (.checked (.advanceBy (target - k))) (Span.ofList elements)
        ⟨k, memory⟩ = _ := Move.map_eq_ok.2 ⟨(), Span.advanceBy_eq hle, rfl⟩
    have hunchecked : move (.uncheckedAdvanceBy (target - k)) (Span.ofList elements)
        ⟨k, memory⟩ = _ := Move.map_eq_ok.2 ⟨(), Span.uncheckedAdvanceBy_eq hle, rfl⟩
    simp only [step, hchecked, hunchecked]
    have hmet : Precondition elements.length k
        (.checked (.advanceBy (target - k)) : SpanOperation τ ε) := hinside
    exact .of_met (.advanceBy _) hmet _ _
  · have hout : k + distance < 0 ∨ elements.length < k + distance := by omega
    have hchecked : move (.checked (.advanceBy distance)) (Span.ofList elements)
        ⟨k, memory⟩ = _ := Move.map_of_error (Span.advanceBy_outside hout)
    have hunchecked : move (.uncheckedAdvanceBy distance) (Span.ofList elements)
        ⟨k, memory⟩ = _ := Move.map_of_error (Span.uncheckedAdvanceBy_outside hout)
    simp only [step, hchecked, hunchecked]
    exact .of_unmet (.advanceBy distance) (by rintro ⟨⟩) hinside (.advanceBy distance)

theorem twin_pop (hk : k ≤ elements.length) (memory : τ) :
    Step.Twin elements.length (step (Span.ofList elements) ⟨k, memory⟩ (.checked .pop))
      (step (Span.ofList elements) ⟨k, memory⟩ .uncheckedPop) := by
  by_cases hend : k = elements.length
  · subst hend
    have hchecked : move (.checked .pop) (Span.ofList elements) ⟨elements.length, memory⟩ = _ :=
      Move.map_eq_ok.2 ⟨none, Span.pop_end, rfl⟩
    have hunchecked : move .uncheckedPop (Span.ofList elements) ⟨elements.length, memory⟩ = _ :=
      Move.map_of_error Span.uncheckedPop_end
    simp only [step, hchecked, hunchecked]
    exact .of_unmet .pop (by rintro ⟨⟩) (Int.lt_irrefl _) .pop
  · have hlt : k < elements.length := by omega
    have hchecked : move (.checked .pop) (Span.ofList elements) ⟨k, memory⟩ = _ :=
      Move.map_eq_ok.2 ⟨some elements[k], Span.pop_eq hlt, rfl⟩
    have hunchecked : move .uncheckedPop (Span.ofList elements) ⟨k, memory⟩ = _ :=
      Move.map_eq_ok.2 ⟨elements[k], Span.uncheckedPop_eq hlt, rfl⟩
    simp only [step, hchecked, hunchecked]
    have hmet : Precondition elements.length k (.checked .pop : SpanOperation τ ε) :=
      Int.ofNat_lt.2 hlt
    exact .of_met .pop hmet _ _

/-- A step and its replacement are twins, from every place in the span. -/
theorem twin_step (hk : k ≤ elements.length) (memory : τ)
    (h : Replaces operation operation') :
    Step.Twin elements.length (step (Span.ofList elements) ⟨k, memory⟩ operation)
      (step (Span.ofList elements) ⟨k, memory⟩ operation') := by
  cases h with
  | kept => exact ⟨.kept operation, rfl, fun _ => ⟨rfl, rfl⟩, fun hne => absurd rfl hne⟩
  | advance => exact twin_advance hk memory
  | advanceBy distance => exact twin_advanceBy distance memory
  | pop => exact twin_pop hk memory

/-- Run by run: after each pair of twins both cursors stand at the same place. -/
theorem steps_twin (hk : k ≤ elements.length) (memory : τ)
    {operations operations' : List (SpanOperation τ ε)}
    (h : List.Forall₂ Replaces operations operations') :
    List.Forall₂ (Step.Twin elements.length)
      (steps (Span.ofList elements) ⟨k, memory⟩ operations)
      (steps (Span.ofList elements) ⟨k, memory⟩ operations') := by
  induction h generalizing k memory with
  | nil => exact .nil
  | @cons operation operation' others others' hreplaces hothers ih =>
    have htwin := twin_step hk memory hreplaces
    rw [steps, steps]
    refine .cons htwin ?_
    rw [htwin.after_eq]
    have hlands : Span.Lands elements.length (operation.MayFail elements)
        (operation.move (Span.ofList elements) ⟨k, memory⟩) := lands_move hk operation
    simp only [step]
    generalize operation.move (Span.ofList elements) ⟨k, memory⟩ = outcome at hlands
    cases hlands with
    | ok hnext answer memory' => exact ih hnext memory'
    | error hnext hfault memory' => exact ih hnext memory'

/-- Over an open span, a run of operations from anywhere in the span keeps to its bounds, and the
cursor always counts what is left. Where some operations are replaced by their unchecked twins, the
run is the same as long as the preconditions of these hold; where one does not hold, both forms are
refused and the cursor stays. -/
theorem steps_within (span : Span ε) (hopen : span.isOpen = true) {position : Int}
    (hstart : 0 ≤ position) (hend : position ≤ span.items.size) (memory : τ)
    {operations operations' : List (SpanOperation τ ε)}
    (hreplaces : List.Forall₂ Replaces operations operations') :
    span.checkPosition position = .ok () ∧
      (∀ step ∈ steps span ⟨position, memory⟩ operations, step.Safe span) ∧
      List.Forall₂ (Step.Twin span.items.size) (steps span ⟨position, memory⟩ operations)
        (steps span ⟨position, memory⟩ operations') := by
  have hlength : span.items.toList.length = span.items.size := Array.length_toList
  obtain ⟨k, rfl⟩ := Int.eq_ofNat_of_zero_le hstart
  have hk : k ≤ span.items.toList.length := by omega
  refine ⟨?_, ?_, ?_⟩
  · simp only [Span.checkPosition, Span.length, hopen, ↓reduceIte, bind, Except.bind]
    rw [if_pos ⟨hstart, hend⟩]
    rfl
  · have hsafe := steps_safe hk memory operations
    rw [Span.ofList_toList hopen] at hsafe
    exact hsafe
  · have htwin := steps_twin hk memory hreplaces
    rw [Span.ofList_toList hopen, hlength] at htwin
    exact htwin

/-- The unchecked twin of the second operation is not allowed at the end of the span. -/
theorem steps_within_at_end :
    (Span.ofList [(7 : UInt8), 8]).isOpen = true ∧ (0 : Int) ≤ 1 ∧
      (1 : Int) ≤ (Span.ofList [(7 : UInt8), 8]).items.size ∧
      List.Forall₂ (Replaces (τ := Nat) (ε := UInt8))
        [.checked .pop, .checked .advance, .checked (.advanceBy (-2)),
          .checked (.popWhere fun _ asked => .error .raised (asked + 1))]
        [.uncheckedPop, .uncheckedAdvance, .uncheckedAdvanceBy (-2),
          .checked (.popWhere fun _ asked => .error .raised (asked + 1))] ∧
      (Span.ofList [(7 : UInt8), 8]).checkPosition 1 = .ok () ∧
      (∀ step ∈ steps (Span.ofList [(7 : UInt8), 8]) ⟨1, (0 : Nat)⟩
          [.checked .pop, .checked .advance, .checked (.advanceBy (-2)),
            .checked (.popWhere fun _ asked => .error .raised (asked + 1))],
        step.Safe (Span.ofList [(7 : UInt8), 8])) ∧
      List.Forall₂ (Step.Twin (Span.ofList [(7 : UInt8), 8]).items.size)
        (steps (Span.ofList [(7 : UInt8), 8]) ⟨1, (0 : Nat)⟩
          [.checked .pop, .checked .advance, .checked (.advanceBy (-2)),
            .checked (.popWhere fun _ asked => .error .raised (asked + 1))])
        (steps (Span.ofList [(7 : UInt8), 8]) ⟨1, (0 : Nat)⟩
          [.uncheckedPop, .uncheckedAdvance, .uncheckedAdvanceBy (-2),
            .checked (.popWhere fun _ asked => .error .raised (asked + 1))]) := by
  have hreplaces : List.Forall₂ (Replaces (τ := Nat) (ε := UInt8))
      [.checked .pop, .checked .advance, .checked (.advanceBy (-2)),
        .checked (.popWhere fun _ asked => .error .raised (asked + 1))]
      [.uncheckedPop, .uncheckedAdvance, .uncheckedAdvanceBy (-2),
        .checked (.popWhere fun _ asked => .error .raised (asked + 1))] :=
    .cons .pop (.cons .advance (.cons (.advanceBy (-2)) (.cons (.kept _) .nil)))
  exact ⟨rfl, by decide, by decide, hreplaces,
    steps_within _ rfl (by decide) (by decide) 0 hreplaces⟩

end SpanOperation

end Scanning
