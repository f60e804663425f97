import Scanning.Move.Operation
import Scanning.Subject
import Scanning.Proofs.Layout.Looking
import Scanning.Proofs.ScalarView.Walk

namespace Scanning

open IndexSpace

variable {σ τ ε α β : Type} [IndexSpace σ ε]

/-- Between the start and the end of a subject. -/
def Within (subject : σ) (index : Int) : Prop := 0 ≤ index ∧ index ≤ endIndex subject

theorem Within.leadsOn {subject : σ} {index next : Int} (h : Within subject index)
    (hon : LeadsOn subject index next) : Within subject next := by
  unfold Within LeadsOn at *
  omega

theorem Within.after {subject : σ} {index next : Int} (h : Within subject index)
    (hafter : after subject index = .ok next) : Within subject next :=
  h.leadsOn (leadsPast_after hafter).leadsOn

/-- A cursor is made only at an index within the subject. -/
theorem Cursor.at?_eq_ok {subject : σ} {index : Int} {cursor : Cursor σ}
    (h : Cursor.at? subject index = .ok cursor) :
    Within subject index ∧ cursor = ⟨subject, index⟩ := by
  unfold Cursor.at? at h
  split at h
  · cases h
    exact ⟨‹_›, rfl⟩
  · cases h

/-- A subject in which the index some elements away from another one is not outside. -/
structure BoundedOffsets (subject : σ) : Prop where
  offset {index distance target : Int} (hindex : Within subject index)
    (h : offset subject index distance = .ok target) : Within subject target
  offsetLimited {index distance limit target : Int} (hindex : Within subject index)
    (h : offsetLimited subject index distance limit = .ok (some target)) : Within subject target

namespace Move

/-- Where a move has left the cursor, however it ended. -/
def landing : EStateM.Result Fault (Standing τ) α → Standing τ
  | .ok _ standing | .error _ standing => standing

/-- A move that does not leave the subject when it begins there. -/
def StaysWithin (subject : σ) (move : Move σ τ α) : Prop :=
  ∀ ⦃standing : Standing τ⦄, Within subject standing.position →
    Within subject (landing (move subject standing)).position

variable {subject : σ}

theorem staysWithin_pure (answer : α) : StaysWithin subject (pure answer : Move σ τ α) :=
  fun _ h => h

theorem staysWithin_throw (fault : Fault) : StaysWithin subject (throw fault : Move σ τ α) :=
  fun _ h => h

theorem StaysWithin.ok {move : Move σ τ α} {standing standing' : Standing τ} {answer : α}
    (h : StaysWithin subject move) (hstanding : Within subject standing.position)
    (hmove : move subject standing = .ok answer standing') :
    Within subject standing'.position := by
  have hlanding := h hstanding
  rw [hmove] at hlanding
  exact hlanding

theorem StaysWithin.error {move : Move σ τ α} {standing standing' : Standing τ} {fault : Fault}
    (h : StaysWithin subject move) (hstanding : Within subject standing.position)
    (hmove : move subject standing = .error fault standing') :
    Within subject standing'.position := by
  have hlanding := h hstanding
  rw [hmove] at hlanding
  exact hlanding

/-- Moves one after the other stay within if each does. -/
theorem StaysWithin.bind {move : Move σ τ α} {f : α → Move σ τ β} (h : StaysWithin subject move)
    (hf : ∀ answer, StaysWithin subject (f answer)) : StaysWithin subject (move >>= f) := by
  intro standing hstanding
  cases hmove : move subject standing with
  | error fault standing' =>
    rw [bind_of_error hmove]
    exact h.error hstanding hmove
  | ok answer standing' =>
    rw [bind_of_ok hmove]
    exact hf answer (h.ok hstanding hmove)

theorem StaysWithin.map {move : Move σ τ α} (h : StaysWithin subject move) (f : α → β) :
    StaysWithin subject (f <$> move) := by
  intro standing hstanding
  simp only [Functor.map, EStateM.map]
  cases hmove : move subject standing with
  | error fault standing' => exact h.error hstanding hmove
  | ok answer standing' => exact h.ok hstanding hmove

theorem staysWithin_look (f : σ → Int → Except Fault α) :
    StaysWithin subject (look f : Move σ τ α) := by
  intro standing h
  unfold look
  split <;> exact h

theorem staysWithin_consume {f : σ → Int → Except Fault (α × Int)}
    (h : ∀ {index answer next}, Within subject index → f subject index = .ok (answer, next) →
      Within subject next) : StaysWithin subject (consume f : Move σ τ α) := by
  intro standing hstanding
  unfold consume
  split
  · exact h hstanding ‹_›
  · exact hstanding

theorem staysWithin_advance : StaysWithin subject (advance : Move σ τ Unit) := by
  apply staysWithin_consume
  intro index answer next hindex h
  split at h
  · cases h
  · obtain ⟨step, hafter, h⟩ := Fault.bind_eq_ok.1 h
    cases h
    exact hindex.after hafter

/-- A move by a number of elements stays within if the subject grants it. -/
theorem staysWithin_advanceBy (hbounded : BoundedOffsets subject) (distance : Int) :
    StaysWithin subject (advanceBy distance : Move σ τ Unit) := by
  apply staysWithin_consume
  intro index answer next hindex h
  obtain ⟨target, hoffset, h⟩ := Fault.bind_eq_ok.1 h
  cases h
  exact hbounded.offset hindex hoffset

theorem staysWithin_pop : StaysWithin subject (pop : Move σ τ (Option ε)) := by
  apply staysWithin_consume
  intro index answer next hindex h
  obtain ⟨taken, htake, h⟩ := Fault.bind_eq_ok.1 h
  cases taken with
  | none =>
    cases h
    exact hindex
  | some taken =>
    cases h
    exact hindex.after (after_of_takeAt htake)

theorem staysWithin_popElement [BEq ε] (element : ε) :
    StaysWithin subject (popElement element : Move σ τ Bool) := by
  apply staysWithin_consume
  intro index answer next hindex h
  split at h
  · cases h
    exact hindex
  obtain ⟨current, -, h⟩ := Fault.bind_eq_ok.1 h
  split at h
  · obtain ⟨step, hafter, h⟩ := Fault.bind_eq_ok.1 h
    cases h
    exact hindex.after hafter
  · cases h
    exact hindex

theorem staysWithin_readPrefix [BEq ε] (elements : List ε) :
    StaysWithin subject (readPrefix elements : Move σ τ Bool) := by
  apply staysWithin_consume
  intro index answer next hindex h
  obtain ⟨stop, hprefix, h⟩ := Fault.bind_eq_ok.1 h
  cases stop with
  | none =>
    cases h
    exact hindex
  | some stop =>
    cases h
    exact hindex.leadsOn (stepsOn_prefixEnd hprefix).leadsOn

theorem staysWithin_readAnyPrefix [BEq ε] (choices : List (List ε)) :
    StaysWithin subject (readAnyPrefix choices : Move σ τ Bool) := by
  induction choices with
  | nil => exact staysWithin_pure false
  | cons elements others ih =>
    apply (staysWithin_readPrefix elements).bind
    intro found
    cases found with
    | true => exact staysWithin_pure true
    | false => exact ih

/-- Even if the slice fails, the cursor has moved no further than the slice ends. -/
theorem staysWithin_read (hbounded : BoundedOffsets subject) (count : Int) :
    StaysWithin subject (read count : Move σ τ (Option (List ε))) := by
  intro standing hstanding
  unfold read
  split
  · exact hstanding
  split
  · exact hstanding
  · exact hstanding
  · have hnext := hbounded.offsetLimited hstanding ‹_›
    split <;> exact hnext

/-- A run stays within, also when its test fails. -/
theorem within_runFrom {test : Int → Test τ ε} {standing : Standing τ}
    (h : Within subject standing.position) :
    Within subject (landing (runFrom subject test standing)).position := by
  fun_induction runFrom subject test standing with
  | case1 | case2 | case3 | case4 | case5 => exact h
  | case6 standing hend element helement memory htest next hafter ih => exact ih (h.after hafter)

theorem staysWithin_advanceWhile (test : Test τ ε) :
    StaysWithin subject (advanceWhile test : Move σ τ Unit) := fun _ h => within_runFrom h

/-- A run whose test is given copies stays within, whatever is done with the copies. -/
theorem staysWithin_advanceInspecting (test : Inspection σ τ ε) :
    StaysWithin subject (advanceInspecting test : Move σ τ Unit) := fun _ h => within_runFrom h

theorem staysWithin_advanceOver (inClass : ε → Bool) :
    StaysWithin subject (advanceOver inClass : Move σ τ Unit) := staysWithin_advanceWhile _

theorem staysWithin_readWhile (test : Test τ ε) :
    StaysWithin subject (readWhile test : Move σ τ (List ε)) :=
  (staysWithin_look _).bind fun _ =>
    (staysWithin_advanceWhile test).bind fun _ => staysWithin_look _

/-- Taking a tested element stays within, whatever the test says. -/
theorem staysWithin_popWhere (test : Test τ ε) :
    StaysWithin subject (popWhere test : Move σ τ (Option ε)) := by
  intro standing h
  unfold popWhere
  split
  · exact h
  split
  · exact h
  split
  · exact h
  · exact h
  split
  · exact h
  · exact h.after ‹_›

end Move

/-- Every operation stays within a subject, however it ends. -/
theorem Operation.staysWithin [BEq ε] {subject : σ} (hbounded : BoundedOffsets subject)
    (operation : Operation σ τ ε) : Move.StaysWithin subject operation.move := by
  cases operation with
  | isAtEnd | remainder | consumedSince | peek | peek2 | peek3 | hasPrefix | startsWith =>
    exact (Move.staysWithin_look _).map _
  | advance => exact Move.staysWithin_advance.map _
  | advanceBy distance => exact (Move.staysWithin_advanceBy hbounded distance).map _
  | advanceWhile test => exact (Move.staysWithin_advanceWhile test).map _
  | advanceInspecting test => exact (Move.staysWithin_advanceInspecting test).map _
  | pop => exact Move.staysWithin_pop.map _
  | popElement element => exact (Move.staysWithin_popElement element).map _
  | popWhere test => exact (Move.staysWithin_popWhere test).map _
  | read count => exact (Move.staysWithin_read hbounded count).map _
  | readPrefix elements => exact (Move.staysWithin_readPrefix elements).map _
  | readWhile test => exact (Move.staysWithin_readWhile test).map _

/-- A plain sequence grants no index outside, wherever the move began. -/
theorem Sequence.within_offset {sequence : Sequence ε} {index distance target : Int}
    (h : sequence.offset index distance = .ok target) : Within sequence target := by
  unfold Sequence.offset at h
  split at h
  · cases h
    assumption
  · cases h

/-- No plain sequence has an index outside that some elements lead to. -/
theorem Sequence.boundedOffsets (sequence : Sequence ε) : BoundedOffsets sequence where
  offset _ h := within_offset h
  offsetLimited {index distance limit target} _ h := by
    have h : sequence.offsetLimited index distance limit = .ok (some target) := h
    unfold Sequence.offsetLimited at h
    split at h
    · cases h
    split at h
    · cases h
    obtain ⟨found, hoffset, hfound⟩ := Fault.map_eq_ok.1 h
    cases hfound
    exact within_offset hoffset

namespace ScalarView

variable {view : ScalarView} {limit : Option Int} {index target : Int}

/-- The search for the byte that begins a character never goes forward. -/
theorem startBelow_le {index start : Nat} (h : view.startBelow index = .ok start) :
    start ≤ index := by
  induction index with
  | zero =>
    cases h
    exact Nat.le_refl 0
  | succ index ih =>
    rw [startBelow] at h
    obtain ⟨byte, -, h⟩ := Fault.bind_eq_ok.1 h
    split at h
    · exact Nat.le_succ_of_le (ih h)
    · cases h
      exact Nat.le_refl _

/-- A step back leads to an earlier index, and not in front of the first byte. -/
theorem before_lt (hpos : 0 < index) (h : view.before index = .ok target) :
    0 ≤ target ∧ target < index := by
  unfold before at h
  obtain ⟨_, hfound, rfl⟩ := Fault.map_eq_ok.1 h
  obtain ⟨start, hstart, hcast⟩ := Fault.bind_eq_ok.1 hfound
  cases hcast
  have hle := startBelow_le hstart
  omega

/-- A walk forward over a view stays within, with a limit or without. -/
theorem within_forward {steps : Nat} (hindex : Within view index)
    (h : view.forward limit steps index = .ok (some target)) : Within view target := by
  induction steps generalizing index with
  | zero =>
    cases h
    exact hindex
  | succ steps ih =>
    by_cases hmet : limit = some index
    · subst hmet
      rw [forward_met] at h
      cases h
    · rw [forward_succ steps hmet] at h
      obtain ⟨next, hafter, h⟩ := Fault.bind_eq_ok.1 h
      exact ih (hindex.after hafter) h

/-- A walk back over a view stays within, with a limit or without. -/
theorem within_backward {steps : Nat} (hindex : Within view index)
    (h : view.backward limit steps index = .ok (some target)) : Within view target := by
  induction steps generalizing index with
  | zero =>
    cases h
    exact hindex
  | succ steps ih =>
    by_cases hmet : limit = some index
    · subst hmet
      rw [backward_met] at h
      cases h
    by_cases hstart : index ≤ 0
    · rw [backward_start steps hmet hstart] at h
      cases h
    · rw [backward_succ steps hmet (by omega)] at h
      obtain ⟨previous, hbefore, h⟩ := Fault.bind_eq_ok.1 h
      have hprevious := before_lt (by omega) hbefore
      refine ih ?_ h
      unfold Within at hindex ⊢
      omega

/-- A walk over a view stays within in either direction. -/
theorem within_walk {distance : Int} (hindex : Within view index)
    (h : view.walk index distance limit = .ok (some target)) : Within view target := by
  unfold walk at h
  split at h
  · exact within_forward hindex h
  · exact within_backward hindex h

/-- No view has an index outside that some characters lead to, whatever its bytes are. -/
theorem boundedOffsets (view : ScalarView) : BoundedOffsets view where
  offset {index distance target} hindex h := by
    have hwalk : view.walk index distance none = .ok (some target) := by
      have h : view.offset index distance = .ok target := h
      rw [walk_eq_offset, h]
      rfl
    exact within_walk hindex hwalk
  offsetLimited hindex h := within_walk hindex h

end ScalarView

/-- What holds of sequences and of views holds of subjects of any kind. -/
theorem Subject.boundedOffsets (subject : Subject) : BoundedOffsets subject := by
  cases subject with
  | text s => exact ⟨s.boundedOffsets.offset, s.boundedOffsets.offsetLimited⟩
  | bytes s => exact ⟨s.boundedOffsets.offset, s.boundedOffsets.offsetLimited⟩
  | items s => exact ⟨s.boundedOffsets.offset, s.boundedOffsets.offsetLimited⟩
  | scalars view => exact ⟨view.boundedOffsets.offset, view.boundedOffsets.offsetLimited⟩

end Scanning
