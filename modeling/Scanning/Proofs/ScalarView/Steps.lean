import Scanning.Proofs.Move.Bounds

namespace Scanning

/-- The index that many steps away. -/
def stepTimes (step : Int → Except Fault Int) : Nat → Int → Except Fault Int
  | 0, index => .ok index
  | count + 1, index => step index >>= stepTimes step count

/-- The index that many steps away; nothing when the limit is met before. -/
def stepUntil (step : Int → Except Fault Int) (limit : Option Int) :
    Nat → Int → Except Fault (Option Int)
  | 0, index => .ok (some index)
  | count + 1, index =>
    if limit = some index then .ok none else step index >>= stepUntil step limit count

section Repeated

variable {step : Int → Except Fault Int} {limit : Option Int} {index stop target : Int}
  {count more : Nat}

/-- So many steps and so many more arrive exactly if the first ones do, and the others do from
there. -/
theorem stepTimes_add_eq_ok_iff :
    stepTimes step (count + more) index = .ok target ↔
      ∃ middle, stepTimes step count index = .ok middle ∧
        stepTimes step more middle = .ok target := by
  induction count generalizing index with
  | zero => simp [stepTimes]
  | succ count ih =>
    rw [Nat.succ_add, stepTimes, stepTimes]
    cases step index with
    | error fault => simp [bind, Except.bind]
    | ok next => exact ih

/-- The last of several steps. -/
theorem stepTimes_succ_eq_ok_iff :
    stepTimes step (count + 1) index = .ok target ↔
      ∃ middle, stepTimes step count index = .ok middle ∧ step middle = .ok target := by
  have hlast (middle : Int) : stepTimes step 1 middle = step middle := by
    rw [stepTimes]
    cases step middle <;> rfl
  simp only [stepTimes_add_eq_ok_iff, hlast]

/-- A limit at which the walk stops before the last step ends it. -/
theorem stepUntil_of_met (hmet : stepTimes step more index = .ok stop) (hmore : more < count) :
    stepUntil step (some stop) count index = .ok none := by
  induction more generalizing index count with
  | zero =>
    cases hmet
    obtain ⟨count, rfl⟩ : ∃ n, count = n + 1 := ⟨count - 1, by omega⟩
    rw [stepUntil, if_pos rfl]
  | succ more ih =>
    obtain ⟨count, rfl⟩ : ∃ n, count = n + 1 := ⟨count - 1, by omega⟩
    obtain ⟨next, hstep, hmet⟩ := Fault.bind_eq_ok.1 hmet
    rw [stepUntil]
    split
    · rfl
    · rw [hstep]
      exact ih hmet (by omega)

/-- Any other limit does nothing. -/
theorem stepUntil_of_missed
    (hmissed : ∀ more < count, ∀ stop, stepTimes step more index = .ok stop → limit ≠ some stop) :
    stepUntil step limit count index = some <$> stepTimes step count index := by
  induction count generalizing index with
  | zero => rfl
  | succ count ih =>
    rw [stepUntil, if_neg (hmissed 0 (by omega) index rfl), stepTimes]
    cases hstep : step index with
    | error fault => rfl
    | ok next =>
      refine ih fun more hmore stop hstop => hmissed (more + 1) (by omega) stop ?_
      rw [stepTimes, hstep]
      exact hstop

end Repeated

/-- A step that leads on by a measure of the indices. -/
structure LeadsOnBy (step : Int → Except Fault Int) (measure : Int → Int) : Prop where
  lt {index next : Int} (h : step index = .ok next) : measure index < measure next
  eq_of_eq {index index' : Int} (h : measure index = measure index') : index = index'

namespace LeadsOnBy

variable {step : Int → Except Fault Int} {measure : Int → Int} {index limit target : Int}
  {count more : Nat}

theorem add_le (h : LeadsOnBy step measure) (hwalk : stepTimes step count index = .ok target) :
    measure index + count ≤ measure target := by
  induction count generalizing index with
  | zero =>
    cases hwalk
    omega
  | succ count ih =>
    obtain ⟨next, hstep, hrest⟩ := Fault.bind_eq_ok.1 hwalk
    have hlt := h.lt hstep
    have hle := ih hrest
    omega

/-- A stop after more steps lies no less far on. -/
theorem le_of_le (h : LeadsOnBy step measure) {near far : Int}
    (hnear : stepTimes step count index = .ok near) (hfar : stepTimes step more index = .ok far)
    (hle : count ≤ more) : measure near ≤ measure far := by
  obtain ⟨rest, rfl⟩ := Nat.exists_eq_add_of_le hle
  obtain ⟨middle, hmiddle, hrest⟩ := stepTimes_add_eq_ok_iff.1 hfar
  cases hnear.symm.trans hmiddle
  have hroom := h.add_le hrest
  omega

/-- A walk that gets beyond an index in front of it has a last stop that is not beyond. -/
theorem exists_last_not_beyond (hahead : measure index ≤ measure limit)
    (hwalk : stepTimes step count index = .ok target) (hbeyond : measure limit < measure target) :
    ∃ more < count, ∃ near far, stepTimes step more index = .ok near ∧
      stepTimes step (more + 1) index = .ok far ∧
      measure near ≤ measure limit ∧ measure limit < measure far := by
  induction count generalizing index with
  | zero =>
    cases hwalk
    omega
  | succ count ih =>
    obtain ⟨next, hstep, hrest⟩ := Fault.bind_eq_ok.1 hwalk
    have hfirst : stepTimes step 1 index = .ok next := by
      rw [stepTimes, hstep]
      rfl
    by_cases hnext : measure limit < measure next
    · exact ⟨0, by omega, index, next, rfl, hfirst, hahead, hnext⟩
    · obtain ⟨more, hmore, near, far, hnear, hfar, hbetween⟩ := ih (by omega) hrest
      refine ⟨more + 1, by omega, near, far, ?_, ?_, hbetween⟩
      · rw [stepTimes, hstep]
        exact hnear
      · rw [stepTimes, hstep]
        exact hfar

/-- A walk gets beyond a limit in front of it exactly if it would without the limit and steps over
it. -/
theorem stepUntil_beyond_iff (h : LeadsOnBy step measure)
    (hahead : measure index ≤ measure limit) :
    stepUntil step (some limit) count index = .ok (some target) ∧
        measure limit < measure target ↔
      stepTimes step count index = .ok target ∧
        ∃ more < count, ∃ near far, stepTimes step more index = .ok near ∧
          stepTimes step (more + 1) index = .ok far ∧
          measure near < measure limit ∧ measure limit < measure far := by
  constructor
  · rintro ⟨hlimited, hbeyond⟩
    have hmissed : ∀ more < count, ∀ stop, stepTimes step more index = .ok stop →
        some limit ≠ some stop := by
      rintro more hmore stop hstop ⟨⟩
      rw [stepUntil_of_met hstop hmore] at hlimited
      cases hlimited
    have hwalk : stepTimes step count index = .ok target := by
      rw [stepUntil_of_missed hmissed] at hlimited
      obtain ⟨arrived, hwalk, harrived⟩ := Fault.map_eq_ok.1 hlimited
      cases harrived
      exact hwalk
    obtain ⟨more, hmore, near, far, hnear, hfar, hle, hlt⟩ :=
      exists_last_not_beyond hahead hwalk hbeyond
    have hne : measure near ≠ measure limit := by
      intro heq
      exact hmissed more hmore near hnear (congrArg some (h.eq_of_eq heq).symm)
    exact ⟨hwalk, more, hmore, near, far, hnear, hfar, by omega, hlt⟩
  · rintro ⟨hwalk, more, hmore, near, far, hnear, hfar, hbefore, hbehind⟩
    -- The stops up to `near` lie in front of the limit, and those from `far` on behind it.
    have hmissed : ∀ stops < count, ∀ stop, stepTimes step stops index = .ok stop →
        some limit ≠ some stop := by
      rintro stops - stop hstop ⟨⟩
      by_cases hstops : stops ≤ more
      · have hle := h.le_of_le hstop hnear hstops
        omega
      · have hle := h.le_of_le hfar hstop (by omega)
        omega
    have hle := h.le_of_le hfar hwalk hmore
    refine ⟨?_, by omega⟩
    rw [stepUntil_of_missed hmissed, hwalk]
    rfl

end LeadsOnBy

namespace ScalarView

variable (view : ScalarView) {index distance target : Int}

/-- The index of the element before, which the first index does not have. -/
def retreat (index : Int) : Except Fault Int :=
  if index ≤ 0 then .error (.outOfBounds .beforeStart) else view.before index

/-- The step that a walk of that distance repeats. -/
def stepToward (distance : Int) : Int → Except Fault Int :=
  if 0 ≤ distance then view.after else view.retreat

theorem leadsOnBy_after : LeadsOnBy view.after fun index => index where
  lt {index next} h := by
    have hafter : IndexSpace.after view index = .ok next := h
    exact IndexSpace.lt_after hafter
  eq_of_eq h := h

theorem leadsOnBy_retreat : LeadsOnBy view.retreat fun index => -index where
  lt {index next} h := by
    unfold retreat at h
    split at h
    · cases h
    · have hlt := before_lt (by omega) h
      omega
  eq_of_eq h := by omega

/-- A walk forward repeats the step forward. -/
theorem forward_eq_stepUntil (limit : Option Int) (count : Nat) (index : Int) :
    view.forward limit count index = stepUntil view.after limit count index := by
  induction count generalizing index with
  | zero => rfl
  | succ count ih =>
    rw [forward, funext ih]
    rfl

/-- A walk back repeats the step back, which the first index does not have. -/
theorem backward_eq_stepUntil (limit : Option Int) (count : Nat) (index : Int) :
    view.backward limit count index = stepUntil view.retreat limit count index := by
  induction count generalizing index with
  | zero => rfl
  | succ count ih =>
    rw [stepUntil, retreat]
    split
    · subst limit
      exact backward_met count
    · split
      · exact backward_start count ‹_› ‹_›
      · rw [backward_succ count ‹_› (by omega), funext ih]

/-- A walk in either direction repeats its step as often as its distance says. -/
theorem walk_eq_stepUntil (index distance : Int) (limit : Option Int) :
    view.walk index distance limit =
      stepUntil (view.stepToward distance) limit distance.natAbs index := by
  rw [walk, stepToward]
  split
  · rw [forward_eq_stepUntil, show distance.toNat = distance.natAbs by omega]
  · rw [backward_eq_stepUntil, show (-distance).toNat = distance.natAbs by omega]

/-- The index a distance away is where the steps lead. -/
theorem offset_eq_stepTimes (index distance : Int) :
    view.offset index distance = stepTimes (view.stepToward distance) distance.natAbs index := by
  have hwalk : some <$> view.offset index distance =
      some <$> stepTimes (view.stepToward distance) distance.natAbs index := by
    rw [← walk_eq_offset, walk_eq_stepUntil, stepUntil_of_missed (by simp)]
  revert hwalk
  cases view.offset index distance <;>
    cases stepTimes (view.stepToward distance) distance.natAbs index <;>
    simp [Functor.map, Except.map]

end ScalarView

end Scanning
