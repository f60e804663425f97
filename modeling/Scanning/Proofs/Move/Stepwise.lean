import Scanning.Move.Progress

namespace Scanning

open IndexSpace

variable {σ τ ε : Type} [IndexSpace σ ε]

namespace Move

/-- Takes the current element that many times, and gives all the answers. -/
def popTimes : Nat → Move σ τ (List (Option ε))
  | 0 => return []
  | count + 1 => do
    let found ← pop
    (found :: ·) <$> popTimes count

/-- Goes past the current element that many times. -/
def advanceTimes : Nat → Move σ τ Unit
  | 0 => return ()
  | count + 1 => do
    advance
    advanceTimes count

/-- Takes the elements of a list in turn, until one of them is not there. -/
def popEach [BEq ε] : List ε → Move σ τ Bool
  | [] => return true
  | element :: others => do
    if ← popElement element then popEach others
    else return false

/-- Where a tested element is not taken nothing moves, and where it is taken the cursor goes past
it. -/
theorem popWhere_eq_ok {test : Test τ ε} {subject : σ} {standing stop : Standing τ}
    {found : Option ε} (h : popWhere test subject standing = .ok found stop) :
    found = none ∧ stop.position = standing.position ∨
      found.isSome ∧ LeadsPast subject standing.position stop.position := by
  cases found with
  | some element => exact .inr ⟨rfl, (stepsPast_popWhere h).leadsPast⟩
  | none =>
    refine .inl ⟨rfl, ?_⟩
    unfold popWhere at h
    split at h
    · cases h
      rfl
    split at h
    · cases h
    split at h
    · cases h
    · cases h
      rfl
    · split at h
      · cases h
      · cases h

/-- Takes elements that a test accepts, one after the other, until the cursor does not move. -/
def popWhile (test : Test τ ε) (subject : σ) (standing : Standing τ) :
    EStateM.Result Fault (Standing τ) (List ε) :=
  match _ : popWhere test subject standing with
  | .error fault stop => .error fault stop
  | .ok found stop =>
    if _ : stop.position = standing.position then .ok [] stop
    else
      match popWhile test subject stop with
      | .error fault last => .error fault last
      | .ok taken last => .ok (found.toList ++ taken) last
termination_by ((endIndex subject : Int) - standing.position).toNat
decreasing_by
  obtain ⟨-, hstays⟩ | ⟨-, hpast⟩ := popWhere_eq_ok ‹_›
  · exact absurd hstays ‹_›
  · exact hpast.room_lt

section PopWhile

variable {test : Test τ ε} {subject : σ} {standing stop : Standing τ}

theorem popWhile_of_error {fault : Fault} (h : popWhere test subject standing = .error fault stop) :
    popWhile test subject standing = .error fault stop := by
  rw [popWhile]
  split
  · simp_all
  · simp_all

theorem popWhile_of_none (h : popWhere test subject standing = .ok none stop) :
    popWhile test subject standing = .ok [] stop := by
  obtain ⟨-, hstays⟩ | ⟨hsome, -⟩ := popWhere_eq_ok h
  · rw [popWhile]
    split
    · simp_all
    · simp_all
  · cases hsome

theorem popWhile_of_some {element : ε}
    (h : popWhere test subject standing = .ok (some element) stop) :
    popWhile test subject standing =
      match popWhile test subject stop with
      | .error fault last => .error fault last
      | .ok taken last => .ok (element :: taken) last := by
  have hmoves : stop.position ≠ standing.position :=
    Int.ne_of_gt (stepsPast_popWhere h).leadsPast.1
  rw [popWhile]
  split
  case h_1 hother => cases h.symm.trans hother
  case h_2 hother =>
    cases h.symm.trans hother
    rw [dif_neg hmoves]
    rfl

end PopWhile

/-- One more element is tested and taken, and then those behind it. -/
theorem advanceWhile_eq (test : Test τ ε) (subject : σ) (standing : Standing τ) :
    advanceWhile test subject standing =
      match popWhere test subject standing with
      | .error fault stop => .error fault stop
      | .ok none stop => .ok () stop
      | .ok (some _) stop => advanceWhile test subject stop := by
  rw [advanceWhile, runFrom, popWhere]
  split
  · rfl
  cases elementAt subject standing.position with
  | error fault => rfl
  | ok element =>
    dsimp only
    cases test element standing.memory with
    | error fault memory => rfl
    | ok verdict memory =>
      cases verdict with
      | false => rfl
      | true =>
        dsimp only
        split
        case h_1 hafter => rw [hafter]
        case h_2 hafter => rw [hafter]; rfl

/-- A run asks what taking tested elements one by one asks, and goes as far. -/
theorem advanceWhile_eq_popWhile (test : Test τ ε) (subject : σ) (standing : Standing τ) :
    advanceWhile test subject standing =
      match popWhile test subject standing with
      | .error fault stop => .error fault stop
      | .ok _ stop => .ok () stop := by
  fun_induction popWhile test subject standing with
  | case1 standing fault stop hpop => rw [advanceWhile_eq, hpop]
  | case2 standing found stop hpop hstays =>
    obtain ⟨rfl, -⟩ | ⟨-, hpast⟩ := popWhere_eq_ok hpop
    · rw [advanceWhile_eq, hpop]
    · exact absurd hstays (Int.ne_of_gt hpast.1)
  | case3 standing found stop hpop hmoves fault last hrest ih
  | case4 standing found stop hpop hmoves taken last hrest ih =>
    obtain ⟨-, hstays⟩ | ⟨hsome, -⟩ := popWhere_eq_ok hpop
    · exact absurd hstays hmoves
    · obtain ⟨element, rfl⟩ := Option.isSome_iff_exists.1 hsome
      rw [hrest] at ih
      rw [advanceWhile_eq, hpop]
      exact ih

end Move

end Scanning
