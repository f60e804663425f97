import Scanning.Move.Operation
import Scanning.Subject
import Scanning.Proofs.Layout.Looking
import Scanning.Proofs.ScalarView.Pieces

namespace Scanning

open IndexSpace

variable {σ τ ε α β : Type}

namespace Move

/-- A move that has not moved when it fails. -/
def Steady (move : Move σ τ α) : Prop :=
  ∀ ⦃subject standing fault standing'⦄,
    move subject standing = .error fault standing' → standing'.position = standing.position

theorem steady_look (f : σ → Int → Except Fault α) : Steady (look f : Move σ τ α) := by
  intro subject standing fault standing' h
  unfold look at h
  split at h
  · cases h
  · cases h
    rfl

theorem steady_consume (f : σ → Int → Except Fault (α × Int)) :
    Steady (consume f : Move σ τ α) := by
  intro subject standing fault standing' h
  unfold consume at h
  split at h
  · cases h
  · cases h
    rfl

theorem map_eq_error {move : Move σ τ α} {f : α → β} {subject : σ} {standing standing' : Standing τ}
    {fault : Fault} :
    (f <$> move) subject standing = .error fault standing' ↔
      move subject standing = .error fault standing' := by
  simp only [Functor.map, EStateM.map]
  cases move subject standing <;> simp

theorem Steady.map {move : Move σ τ α} (h : Steady move) (f : α → β) : Steady (f <$> move) := by
  intro subject standing fault standing' hfails
  exact h (map_eq_error.1 hfails)

variable [IndexSpace σ ε]

/-- The test is asked before the cursor moves, and so is the way to the next element. -/
theorem steady_popWhere (test : Test τ ε) : Steady (popWhere test : Move σ τ (Option ε)) := by
  intro subject standing fault standing' h
  unfold popWhere at h
  split at h
  · cases h
  split at h
  · cases h
    rfl
  split at h
  · cases h
    rfl
  · cases h
  split at h
  · cases h
    rfl
  · cases h

/-- A run accepts the elements from one standing to another: each can be had, is accepted, and is
stepped over. -/
inductive Accepts (subject : σ) (test : Int → Test τ ε) : Standing τ → Standing τ → Prop where
  | here (standing : Standing τ) : Accepts subject test standing standing
  | next {standing stop : Standing τ} {element : ε} {next : Int} {memory : τ}
      (hend : standing.position ≠ endIndex subject)
      (helement : elementAt subject standing.position = .ok element)
      (htest : test standing.position element standing.memory = .ok true memory)
      (hafter : after subject standing.position = .ok next)
      (hrest : Accepts subject test ⟨next, memory⟩ stop) : Accepts subject test standing stop

/-- A run fails at the element where it stands: the element cannot be had, the test of it fails, or
there is no step past it. -/
inductive FailsAt (subject : σ) (test : Int → Test τ ε) (standing : Standing τ) :
    Fault → Standing τ → Prop where
  | element {fault : Fault} (hend : standing.position ≠ endIndex subject)
      (helement : elementAt subject standing.position = .error fault) :
      FailsAt subject test standing fault standing
  | test {fault : Fault} {element : ε} {memory : τ} (hend : standing.position ≠ endIndex subject)
      (helement : elementAt subject standing.position = .ok element)
      (htest : test standing.position element standing.memory = .error fault memory) :
      FailsAt subject test standing fault { standing with memory }
  | step {fault : Fault} {element : ε} {memory : τ} (hend : standing.position ≠ endIndex subject)
      (helement : elementAt subject standing.position = .ok element)
      (htest : test standing.position element standing.memory = .ok true memory)
      (hafter : after subject standing.position = .error fault) :
      FailsAt subject test standing fault { standing with memory }

variable {subject : σ} {test : Int → Test τ ε} {standing standing' : Standing τ} {fault : Fault}

theorem FailsAt.position_eq (h : FailsAt subject test standing fault standing') :
    standing'.position = standing.position := by
  cases h <;> rfl

theorem Accepts.position_le (h : Accepts subject test standing standing') :
    standing.position ≤ standing'.position := by
  induction h with
  | here => exact Int.le_refl _
  | next hend helement htest hafter hrest ih =>
    have hlt := lt_after hafter
    simp only at ih
    omega

/-- A run that ends well has accepted all elements in front of where it ends. -/
theorem accepts_of_runFrom (h : runFrom subject test standing = .ok () standing') :
    ∃ stop, Accepts subject test standing stop ∧ standing'.position = stop.position := by
  fun_induction runFrom subject test standing with
  | case1 standing =>
    cases h
    exact ⟨_, .here _, rfl⟩
  | case2 | case3 | case5 => cases h
  | case4 standing hend element helement memory htest =>
    cases h
    exact ⟨_, .here _, rfl⟩
  | case6 standing hend element helement memory htest next hafter ih =>
    obtain ⟨stop, hrest, hposition⟩ := ih h
    exact ⟨stop, .next hend helement htest hafter hrest, hposition⟩

/-- A run goes on from the elements that it has accepted as if it had begun behind them. -/
theorem Accepts.runFrom_eq (h : Accepts subject test standing standing') :
    runFrom subject test standing = runFrom subject test standing' := by
  induction h with
  | here => rfl
  | next hend helement htest hafter hrest ih =>
    rw [runFrom, if_neg hend]
    simp only [helement, htest]
    split
    · cases hafter.symm.trans ‹_›
    · cases hafter.symm.trans ‹_›
      exact ih

/-- A run at an element at which it fails has failed. -/
theorem FailsAt.runFrom_eq (h : FailsAt subject test standing fault standing') :
    runFrom subject test standing = .error fault standing' := by
  cases h with
  | element hend helement =>
    rw [runFrom, if_neg hend]
    simp only [helement]
  | test hend helement htest =>
    rw [runFrom, if_neg hend]
    simp only [helement, htest]
  | step hend helement htest hafter =>
    rw [runFrom, if_neg hend]
    simp only [helement, htest]
    split
    · cases hafter.symm.trans ‹_›
      rfl
    · cases hafter.symm.trans ‹_›

/-- A run fails exactly if it comes to an element at which it fails. -/
theorem runFrom_eq_error_iff :
    runFrom subject test standing = .error fault standing' ↔
      ∃ stop, Accepts subject test standing stop ∧ FailsAt subject test stop fault standing' := by
  constructor
  · intro h
    fun_induction runFrom subject test standing with
    | case1 | case4 => cases h
    | case2 standing hend fault helement =>
      cases h
      exact ⟨_, .here _, .element hend helement⟩
    | case3 standing hend element helement fault memory htest =>
      cases h
      exact ⟨_, .here _, .test hend helement htest⟩
    | case5 standing hend element helement memory htest fault hafter =>
      cases h
      exact ⟨_, .here _, .step hend helement htest hafter⟩
    | case6 standing hend element helement memory htest next hafter ih =>
      obtain ⟨stop, hrest, hfails⟩ := ih h
      exact ⟨stop, .next hend helement htest hafter hrest, hfails⟩
  · rintro ⟨stop, haccepts, hfails⟩
    rw [haccepts.runFrom_eq, hfails.runFrom_eq]

end Move

namespace Subject

variable {test : Int → Test τ Value} {standing standing' : Standing τ} {fault : Fault}

/-- Elements of a view that were accepted were decoded one by one, so their bytes are a text. -/
theorem exists_slice_scalars {view : ScalarView}
    (h : Move.Accepts (scalars view) test standing standing') :
    ∃ chars, view.slice standing.position standing'.position = .ok chars := by
  induction h with
  | here standing => exact ⟨[], view.slice_self standing.position⟩
  | @next standing stop element next memory hend helement htest hafter hrest ih =>
    have hlt := lt_after hafter
    have hle := hrest.position_le
    have hafter : view.after standing.position = .ok next := hafter
    have hstart := ScalarView.nonneg_of_after hafter
    obtain ⟨back, hback⟩ := ih
    have htext : ∃ front, view.slice standing.position next = .ok front := by
      have helement : (fun chars => Value.text (String.ofList chars)) <$>
          view.textAt standing.position = .ok element := helement
      rw [ScalarView.textAt_eq_slice hafter] at helement
      cases hslice : view.slice standing.position next with
      | error fault =>
        rw [hslice] at helement
        cases helement
      | ok front => exact ⟨front, rfl⟩
    obtain ⟨front, hfront⟩ := htext
    simp only at hle hback
    obtain ⟨i, hi⟩ := Int.eq_ofNat_of_zero_le hstart
    obtain ⟨j, rfl⟩ := Int.eq_ofNat_of_zero_le (show 0 ≤ next by omega)
    obtain ⟨k, hk⟩ := Int.eq_ofNat_of_zero_le (show 0 ≤ stop.position by omega)
    rw [hi] at hfront hlt ⊢
    rw [hk] at hback hle ⊢
    exact ⟨front ++ back, ScalarView.slice_append (by omega) (by omega) hfront hback⟩

/-- Elements that a run has accepted can be had together as a slice. -/
theorem exists_slice (subject : Subject) (h : Move.Accepts subject test standing standing') :
    ∃ values, slice subject standing.position standing'.position = .ok values := by
  cases subject with
  | text | bytes | items => exact ⟨_, rfl⟩
  | scalars view =>
    obtain ⟨chars, hslice⟩ := exists_slice_scalars h
    exact ⟨chars.map Value.ofChar, congrArg (Functor.map (List.map Value.ofChar)) hslice⟩

/-- Reading a run fails only where the run does: what it has gone over can be given. -/
theorem advanceWhile_of_readWhile {subject : Subject} {test : Test τ Value}
    (h : Move.readWhile test subject standing = .error fault standing') :
    Move.advanceWhile test subject standing = .error fault standing' := by
  have hstart : Move.position subject standing = .ok standing.position standing := rfl
  rw [Move.readWhile, Move.bind_of_ok hstart] at h
  cases hrun : Move.advanceWhile test subject standing with
  | error fault' stop =>
    rw [Move.bind_of_error hrun] at h
    cases h
    rfl
  | ok answer stop =>
    obtain ⟨last, haccepts, hposition⟩ := Move.accepts_of_runFrom hrun
    obtain ⟨values, hslice⟩ := subject.exists_slice haccepts
    have hpiece : Move.consumedSince standing.position subject stop = .ok values stop := by
      apply Move.look_eq_ok.2
      rw [hposition]
      exact ⟨hslice, rfl⟩
    rw [Move.bind_of_ok hrun, hpiece] at h
    cases h

end Subject

end Scanning
