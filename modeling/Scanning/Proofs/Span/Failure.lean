import Scanning.Proofs.Agreement.Basic
import Scanning.Proofs.Move.Failure
import Scanning.Proofs.Span.Taking
import Scanning.Span.Codec

namespace Scanning

variable {σ τ ε α β : Type}

namespace Move

theorem steady_pure (answer : α) : Steady (pure answer : Move σ τ α) := by
  intro subject standing fault standing' h
  cases h

theorem steady_throw (fault : Fault) : Steady (throw fault : Move σ τ α) := by
  intro subject standing fault' standing' h
  cases h
  rfl

/-- A look leaves the cursor where it is, so only what follows may move it. -/
theorem Steady.after_look {f : σ → Int → Except Fault α} {next : α → Move σ τ β}
    (h : ∀ answer, Steady (next answer)) : Steady (look f >>= next) := by
  intro subject standing fault standing' hfails
  cases hlook : look f subject standing with
  | error fault' stop =>
    rw [bind_of_error hlook] at hfails
    cases hfails
    exact steady_look f hlook
  | ok answer stop =>
    obtain ⟨-, rfl⟩ := look_eq_ok.1 hlook
    rw [bind_of_ok hlook] at hfails
    exact h answer hfails

/-- What cannot fail once a move has succeeded does not change where the whole fails. -/
theorem Steady.bind {move : Move σ τ α} {next : α → Move σ τ β} (h : Steady move)
    (hnext : ∀ ⦃subject standing answer standing'⦄,
      move subject standing = .ok answer standing' →
      ∃ last standing'', next answer subject standing' = .ok last standing'') :
    Steady (move >>= next) := by
  intro subject standing fault standing' hfails
  cases hmove : move subject standing with
  | error fault' stop =>
    rw [bind_of_error hmove] at hfails
    cases hfails
    exact h hmove
  | ok answer stop =>
    obtain ⟨last, stop', hlast⟩ := hnext hmove
    rw [bind_of_ok hmove, hlast] at hfails
    cases hfails

end Move

namespace Span

open Move (Steady)

variable {span : Span ε} {standing standing' : Standing τ} {fault : Fault}

/-- An unchecked step succeeds only over an open span. -/
theorem isOpen_of_uncheckedAdvanceBy {distance : Int}
    (h : uncheckedAdvanceBy distance span standing = .ok () standing') : span.isOpen = true := by
  obtain ⟨next, hnext, -⟩ := Move.consume_eq_ok.1 h
  by_cases hopen : span.isOpen = true
  · exact hopen
  · simp [length, hopen, bind, Except.bind] at hnext

/-- An open span has a window between any two places. -/
theorem window_of_isOpen (h : span.isOpen = true) (low high : Int) :
    ∃ window, span.window low high = .ok window := by
  rw [Span.window, if_pos h]
  exact ⟨_, rfl⟩

theorem steady_pop : Steady (pop : Move (Span ε) τ (Option ε)) := by
  intro span standing fault standing' h
  rw [pop] at h
  split at h
  · cases h
    rfl
  split at h
  · cases h
  · exact (Move.steady_consume _).map some h

theorem steady_popElement [BEq ε] (element : ε) :
    Steady (popElement element : Move (Span ε) τ Bool) := by
  refine Steady.after_look fun isNext => ?_
  cases isNext with
  | false => exact Move.steady_pure false
  | true => exact (Move.steady_consume _).bind fun _ _ _ _ _ => ⟨true, _, rfl⟩

/-- The test is asked before the cursor moves. -/
theorem steady_popWhere (test : Test τ ε) :
    Steady (popWhere test : Move (Span ε) τ (Option ε)) := by
  intro span standing fault standing' h
  rw [popWhere] at h
  split at h
  · cases h
    rfl
  split at h
  · cases h
  split at h
  · cases h
    rfl
  split at h
  · cases h
    rfl
  · cases h
  · have hadvance : Steady (uncheckedAdvance : Move (Span ε) τ Unit) := Move.steady_consume _
    have hkeeps := hadvance.map _ h
    exact hkeeps

/-- The window is within a span that is still open. -/
theorem steady_read (count : Int) : Steady (read count : Move (Span ε) τ (Option Window)) := by
  rw [read]
  split
  · exact Move.steady_throw _
  refine Steady.after_look fun start => Steady.after_look fun isShort => ?_
  split
  · exact Move.steady_pure none
  refine (Move.steady_consume _).bind ?_
  intro span standing _ standing' hadvance
  obtain ⟨window, hwindow⟩ := window_of_isOpen (isOpen_of_uncheckedAdvanceBy hadvance) start
    (start + count)
  exact ⟨some window, standing', Move.map_eq_ok.2 ⟨window, Move.look_eq_ok.2 ⟨hwindow, rfl⟩, rfl⟩⟩

/-- Reading more elements than there are stays. -/
theorem eq_of_read_none {count : Int} (h : read count span standing = .ok none standing') :
    standing' = standing := by
  rw [read] at h
  split at h
  · cases h
  obtain ⟨start, _, hstart, h⟩ := Move.bind_eq_ok.1 h
  obtain ⟨-, rfl⟩ := Move.look_eq_ok.1 hstart
  obtain ⟨isShort, _, hlacks, h⟩ := Move.bind_eq_ok.1 h
  obtain ⟨-, rfl⟩ := Move.look_eq_ok.1 hlacks
  split at h
  · obtain ⟨-, rfl⟩ := Move.pure_eq_ok.1 h
    rfl
  · obtain ⟨_, middle, -, h⟩ := Move.bind_eq_ok.1 h
    obtain ⟨window, -, hsome⟩ := Move.map_eq_ok.1 h
    cases hsome

/-- A field that is longer than what is left is refused where it begins. -/
theorem steady_view (width : Int) : Steady (view width : Move (Span ε) τ Window) := by
  intro span standing fault standing' h
  rw [view] at h
  cases hread : read width span standing with
  | error fault' stop =>
    rw [Move.bind_of_error hread] at h
    cases h
    exact steady_read width hread
  | ok found stop =>
    rw [Move.bind_of_ok hread] at h
    cases found with
    | some window => cases h
    | none =>
      obtain rfl := eq_of_read_none hread
      have hunderrun (left : Int) : Steady (do
          throw (.parse ⟨.span, .underrun width left, some (← position)⟩) :
            Move (Span ε) τ Window) :=
        Steady.after_look fun _ => Move.steady_throw _
      exact Steady.after_look hunderrun h

variable [Stored ε]

/-- Taking bytes stays when it fails. -/
theorem steady_take (width : Int) : Steady (take width : Move (Span ε) τ (List UInt8)) :=
  (steady_view width).bind fun _ _ _ _ _ => ⟨_, _, rfl⟩

/-- Reading a text field stays when it fails, and decoding it does not fail. -/
theorem steady_readAscii (width : Int) : Steady (readAscii width : Move (Span ε) τ String) :=
  (steady_take width).bind fun _ _ _ _ _ => ⟨_, _, rfl⟩

theorem steady_uint (width : Int) : Steady (uint width : Move (Span ε) τ Nat) :=
  (steady_take width).bind fun _ _ _ _ _ => ⟨_, _, rfl⟩

theorem steady_sint (width : Int) : Steady (sint width : Move (Span ε) τ Int) :=
  (steady_take width).bind fun _ _ _ _ _ => ⟨_, _, rfl⟩

omit [Stored ε]

/-- A test fails at the element behind so many others, which it has accepted one after the other. -/
inductive FailsAfter (test : Test τ ε) (fault : Fault) : List ε → τ → Nat → Prop where
  | here {element : ε} {rest : List ε} {memory told : τ}
      (htest : test element memory = .error fault told) :
      FailsAfter test fault (element :: rest) memory 0
  | next {element : ε} {rest : List ε} {memory told : τ} {count : Nat}
      (htest : test element memory = .ok true told) (hrest : FailsAfter test fault rest told count) :
      FailsAfter test fault (element :: rest) memory (count + 1)

/-- When the accepted elements end in a failure, the test fails at the element behind them. -/
theorem failsAfter_of_accepted {test : Test τ ε} {elements : List ε} {memory memory' : τ}
    {count : Nat} (h : accepted test elements memory = (count, memory', some fault)) :
    FailsAfter test fault elements memory count := by
  fun_induction accepted test elements memory generalizing count memory' with
  | case1 | case3 => cases h
  | case2 element rest memory fault' told htest =>
    cases h
    exact .here htest
  | case4 element rest memory told htest count' ending hrest ih =>
    cases h
    exact .next htest (ih hrest)

variable {elements : List ε} {k : Nat} {memory : τ}

/-- Advancing under a test that raises ends at the element at which the test has raised, behind
those that it has accepted. -/
theorem failsAfter_of_advanceWhile (hk : k ≤ elements.length) {test : Test τ ε}
    (h : advanceWhile test (ofList elements) ⟨k, memory⟩ = .error fault standing') :
    ∃ count, FailsAfter test fault (elements.drop k) memory count ∧
      standing'.position = k + count := by
  rw [advanceWhile_eq hk] at h
  obtain ⟨⟨count, memory', ending⟩, haccepted⟩ :
      ∃ run, accepted test (elements.drop k) memory = run := ⟨_, rfl⟩
  rw [haccepted] at h
  cases ending with
  | none => cases h
  | some fault' =>
    cases h
    exact ⟨count, failsAfter_of_accepted haccepted, Int.natCast_add k count⟩

/-- Reading a run fails where the run does. -/
theorem failsAfter_of_readWhile (hk : k ≤ elements.length) {test : Test τ ε}
    (h : readWhile test (ofList elements) ⟨k, memory⟩ = .error fault standing') :
    ∃ count, FailsAfter test fault (elements.drop k) memory count ∧
      standing'.position = k + count := by
  rw [readWhile_eq hk] at h
  split at h
  · cases h
  · cases h
    exact ⟨_, failsAfter_of_accepted ‹_›, Int.natCast_add k _⟩

/-- A move that is refused wherever the cursor stands, which stays there. -/
def Refuses (span : Span ε) (move : Move (Span ε) τ α) : Prop :=
  ∀ standing, ∃ fault, move span standing = .error fault standing ∧ fault.kind = .value

/-- What would come after a move that is refused does not matter. -/
theorem Refuses.bind {move : Move (Span ε) τ α} (h : Refuses span move)
    (next : α → Move (Span ε) τ β) : Refuses span (move >>= next) := by
  intro standing
  obtain ⟨fault, hmove, hkind⟩ := h standing
  exact ⟨fault, Move.bind_of_error hmove, hkind⟩

theorem Refuses.map {move : Move (Span ε) τ α} (h : Refuses span move) (f : α → β) :
    Refuses span (f <$> move) := by
  intro standing
  obtain ⟨fault, hmove, hkind⟩ := h standing
  exact ⟨fault, Move.map_of_error hmove, hkind⟩

theorem refuses_throw {fault : Fault} (h : fault.kind = .value) :
    Refuses span (throw fault : Move (Span ε) τ α) := fun _ => ⟨fault, rfl, h⟩

/-- A look that finds the span released wherever the cursor stands is refused. -/
theorem refuses_look {f : Span ε → Int → Except Fault α}
    (h : ∀ place, f span place = .error .released) : Refuses span (Move.look f : Move _ τ α) := by
  intro standing
  refine ⟨.released, ?_, rfl⟩
  rw [Move.look, h]

/-- A move that finds the span released wherever the cursor stands is refused. -/
theorem refuses_consume {f : Span ε → Int → Except Fault (α × Int)}
    (h : ∀ place, f span place = .error .released) :
    Refuses span (Move.consume f : Move _ τ α) := by
  intro standing
  refine ⟨.released, ?_, rfl⟩
  rw [Move.consume, h]

section Closed

variable (hclosed : span.isOpen = false)

include hclosed

theorem length_of_closed : span.length = .error .released := by
  rw [length, if_neg (by simp [hclosed])]

/-- What begins with the number of elements fails with it. -/
theorem length_bind_of_closed (f : Nat → Except Fault α) :
    (span.length >>= f) = .error .released := by
  rw [length_of_closed hclosed]
  rfl

theorem refuses_pop : Refuses span (pop : Move (Span ε) τ (Option ε)) := by
  intro standing
  refine ⟨.released, ?_, rfl⟩
  rw [pop, length_of_closed hclosed]

theorem refuses_popElement [BEq ε] (element : ε) :
    Refuses span (popElement element : Move (Span ε) τ Bool) :=
  Refuses.bind (refuses_look fun _ => length_bind_of_closed hclosed _) _

theorem refuses_popWhere (test : Test τ ε) :
    Refuses span (popWhere test : Move (Span ε) τ (Option ε)) := by
  intro standing
  refine ⟨.released, ?_, rfl⟩
  rw [popWhere, length_of_closed hclosed]

/-- Advancing under a test over a released span is refused, and nothing is tested. -/
theorem refuses_advanceWhile (test : Test τ ε) :
    Refuses span (advanceWhile test : Move (Span ε) τ Unit) := by
  intro standing
  refine ⟨.released, ?_, rfl⟩
  rw [advanceWhile, length_of_closed hclosed]

theorem refuses_readWhile (test : Test τ ε) :
    Refuses span (readWhile test : Move (Span ε) τ Window) := by
  intro standing
  rw [readWhile, Move.bind_of_ok (position_eq span standing)]
  exact (refuses_advanceWhile hclosed test).bind _ standing

/-- A negative number of elements is refused before the span is asked. -/
theorem refuses_read (count : Int) :
    Refuses span (read count : Move (Span ε) τ (Option Window)) := by
  intro standing
  rw [read]
  split
  · exact refuses_throw rfl standing
  · have hlacks : Refuses span (lacks count : Move (Span ε) τ Bool) :=
      refuses_look fun _ => length_bind_of_closed hclosed _
    rw [Move.bind_of_ok (position_eq span standing)]
    exact hlacks.bind _ standing

theorem refuses_view (width : Int) : Refuses span (view width : Move (Span ε) τ Window) :=
  (refuses_read hclosed width).bind _

theorem refuses_take [Stored ε] (width : Int) :
    Refuses span (take width : Move (Span ε) τ (List UInt8)) :=
  (refuses_view hclosed width).bind _

theorem refuses_takeExact [Stored ε] (width : Nat) :
    Refuses span (takeExact width : Move (Span ε) τ (List UInt8)) :=
  (refuses_take hclosed width).bind _

end Closed

end Span

end Scanning
