import Scanning.Session.Run
import Scanning.Proofs.Move.Failure

namespace Scanning.Session

open Move (Steady Accepts FailsAt)

variable {τ α : Type} {session : Session} {number : Nat} {fault : Fault}

/-- How the command of a reply ended. -/
def Reply.outcome : Reply → Outcome
  | .mk outcome _ _ _ _ => outcome

/-- A cursor that is put where it is has not moved. -/
theorem place_positionOf (session : Session) (number : Nat) :
    session.place number (session.positionOf number) = session := by
  have hself : session.handles.setIfInBounds number (session.handle number) = session.handles := by
    apply Array.ext_getElem?
    intro i
    rw [Array.getElem?_setIfInBounds]
    split
    · subst i
      split
      · simp [handle, *]
      · simp [*]
    · rfl
  exact congrArg (fun handles => { session with handles }) hself

theorem positionOf_place (hnumber : number < session.handles.size) (position : Int) :
    (session.place number position).positionOf number = position := by
  simp [positionOf, handle, place, hnumber]

theorem value_ne_fault (value : Value) : Outcome.value value ≠ .fault fault := by
  intro h
  cases h

variable {memory : τ} {move : Move Subject τ α} {outcome : α → Outcome}

theorem make_of_ok {answer : α} {standing : Standing τ}
    (h : move (session.subjectOf number) ⟨session.positionOf number, memory⟩ = .ok answer standing) :
    session.make number memory move outcome =
      (session.place number standing.position, standing.memory, outcome answer) := by
  rw [make, h]

theorem make_of_error {standing : Standing τ}
    (h : move (session.subjectOf number) ⟨session.positionOf number, memory⟩ =
      .error fault standing) :
    session.make number memory move outcome =
      (session.place number standing.position, standing.memory, .fault fault) := by
  rw [make, h]

/-- A move ends in a failure only if it fails, and then the cursor stands where the move does. -/
theorem make_fault (hanswer : ∀ answer, outcome answer ≠ .fault fault)
    (h : (session.make number memory move outcome).2.2 = .fault fault) :
    ∃ standing,
      move (session.subjectOf number) ⟨session.positionOf number, memory⟩ = .error fault standing ∧
      (session.make number memory move outcome).1 = session.place number standing.position := by
  cases hmove : move (session.subjectOf number) ⟨session.positionOf number, memory⟩ with
  | ok answer standing =>
    rw [make_of_ok hmove] at h
    exact absurd h (hanswer answer)
  | error fault' standing =>
    rw [make_of_error hmove] at h ⊢
    cases h
    exact ⟨standing, rfl, rfl⟩

/-- A move that stays when it fails leaves the session as it is, when the command that it is made
for fails. -/
theorem make_steady (hsteady : Steady move) (hanswer : ∀ answer, outcome answer ≠ .fault fault)
    (h : (session.make number memory move outcome).2.2 = .fault fault) :
    (session.make number memory move outcome).1 = session := by
  obtain ⟨standing, hmove, hplace⟩ := make_fault hanswer h
  rw [hplace, hsteady hmove, place_positionOf]

variable {operation : Operation Subject Memory Value}

/-- An operation fails only when its move does, and then the cursor is placed where the move has
come to. -/
theorem operate_fault (h : (session.operate number operation).2.outcome = .fault fault) :
    ∃ standing, operation.move (session.subjectOf number) ⟨session.positionOf number, {}⟩ =
        .error fault standing ∧
      (session.operate number operation).1 = session.place number standing.position :=
  make_fault (fun _ => value_ne_fault _) h

theorem operate_of_error {standing : Standing Memory}
    (h : operation.move (session.subjectOf number) ⟨session.positionOf number, {}⟩ =
      .error fault standing) :
    (session.operate number operation).1 = session.place number standing.position ∧
      (session.operate number operation).2.outcome = .fault fault := by
  rw [operate, make_of_error h]
  exact ⟨rfl, rfl⟩

/-- An operation whose move stays when it fails leaves the session as it is when it fails. -/
theorem operate_steady (hsteady : Steady operation.move)
    (h : (session.operate number operation).2.outcome = .fault fault) :
    (session.operate number operation).1 = session :=
  make_steady hsteady (fun _ => value_ne_fault _) h

/-- An operation that is given elements, whose move stays when it fails, leaves the session as it is
both when the elements cannot be read and when the move fails. -/
theorem operateWith_steady {elements : Subject}
    {operation : List Value → Operation Subject Memory Value}
    (hsteady : ∀ values, Steady (operation values).move)
    (h : (session.operateWith number elements operation).2.outcome = .fault fault) :
    (session.operateWith number elements operation).1 = session := by
  unfold operateWith at h ⊢
  split at h
  · exact operate_steady (hsteady _) h
  · rfl

/-- A use of a pattern that fails, in finding a match or in moving over it, leaves the session as it
is. -/
theorem useMatch_steady {use : MatchUse} {engine : Engine}
    (h : (session.useMatch number use engine).2.outcome = .fault fault) :
    (session.useMatch number use engine).1 = session := by
  have hread : Steady (readMatch engine : Move Subject Unit (Option Found)) :=
    Move.steady_consume _
  cases use with
  | advance => exact make_steady (hread.map _) (fun _ => value_ne_fault _) h
  | ask => exact make_steady (Move.steady_look _) (fun _ => value_ne_fault _) h
  | read =>
    refine make_steady hread ?_ h
    intro found hfault
    cases hfault

/-- A copy that cannot be made leaves the session as it is. -/
theorem duplicate_fault {name : String}
    (h : (session.duplicate number name).2.outcome = .fault fault) :
    (session.duplicate number name).1 = session := by
  unfold duplicate at h ⊢
  dsimp only at h ⊢
  cases hcopy : (Cursor.mk (session.subjectOf number) (session.positionOf number)).copy with
  | error cause => rfl
  | ok cursor =>
    rw [hcopy] at h
    cases h

theorem alter_fault {changed : Except Fault Subject}
    (h : (session.alter number changed).2.outcome = .fault fault) :
    (session.alter number changed).1 = session := by
  unfold alter at h ⊢
  split at h
  · cases h
  · rfl

theorem scan_fault {name : String} {fields : List (String × Record.Raw)}
    (h : (session.scan number name fields).2.outcome = .fault fault) :
    (session.scan number name fields).1 = session := by
  unfold scan at h ⊢
  split at h
  · rfl
  · cases h

/-- Commands that have done nothing when they fail: all but those that go on from element to element
by themselves, that take a number of elements, or that work on another view. -/
def Command.IsSteady : Command → Prop
  | .advanceWhile _ | .advanceInspecting _ | .readWhile _ | .read _ => False
  | .block _ _ _ | .next _ | .scanAll _ => False
  | _ => True

/-- What a command asks about each element that it goes over, for those that go on while the answer
is yes. The question knows the index. -/
def Command.run? (subject : Subject) : Command → Option (Int → Test Memory Value)
  | .advanceWhile test | .readWhile test => some fun _ => test
  | .advanceInspecting test => some (Move.withCopy subject test)
  | _ => none

/-- A steady command that fails leaves the whole session as it is. -/
theorem obey_steady {command : Command} (hsteady : command.IsSteady)
    (h : (session.obey number command).2.outcome = .fault fault) :
    (session.obey number command).1 = session := by
  cases command with
  | isAtEnd | remainder | consumedSince | peek | peek2 | peek3 | hasPrefix =>
    rw [obey] at h ⊢
    exact operate_steady ((Move.steady_look _).map _) h
  | advance | advanceBy | pop | popElement =>
    rw [obey] at h ⊢
    exact operate_steady ((Move.steady_consume _).map _) h
  | popWhere test =>
    rw [obey] at h ⊢
    exact operate_steady ((Move.steady_popWhere _).map _) h
  | startsWith =>
    rw [obey] at h ⊢
    exact operateWith_steady (fun _ => (Move.steady_look _).map _) h
  | readPrefix =>
    rw [obey] at h ⊢
    exact operateWith_steady (fun _ => (Move.steady_consume _).map _) h
  | describe =>
    rw [obey] at h ⊢
    exact make_steady (Move.steady_look _) (fun _ => value_ne_fault _) h
  | matching use engine =>
    rw [obey] at h ⊢
    exact useMatch_steady h
  | copy =>
    rw [obey] at h ⊢
    exact duplicate_fault h
  | setPosition =>
    rw [obey] at h
    cases h
  | append | truncate =>
    rw [obey] at h ⊢
    exact alter_fault h
  | scan =>
    rw [obey] at h ⊢
    exact scan_fault h
  | advanceWhile | advanceInspecting | readWhile | read | block | next | scanAll => cases hsteady

/-- A block that cannot be opened has not begun. -/
theorem obey_block_of_error {view : Option Subject} {cause : Fault}
    (hopen : session.openView number view = .error cause) (ending : Ending) (body : Script) :
    session.obey number (.block view ending body) =
      (session, session.reply number (.fault cause)) := by
  rw [obey, hopen]

/-- A command that goes on from element to element and fails has accepted all elements before the
one at which its test fails; the cursor is left there, and nothing else has changed. -/
theorem obey_run {command : Command} {test : Int → Test Memory Value}
    (hrun : command.run? (session.subjectOf number) = some test)
    (h : (session.obey number command).2.outcome = .fault fault) :
    ∃ stop last, Accepts (session.subjectOf number) test ⟨session.positionOf number, {}⟩ stop ∧
      FailsAt (session.subjectOf number) test stop fault last ∧
      (session.obey number command).1 = session.place number stop.position := by
  have hmoved : ∃ standing,
      Move.runFrom (session.subjectOf number) test ⟨session.positionOf number, {}⟩ =
        .error fault standing ∧
      (session.obey number command).1 = session.place number standing.position := by
    cases command with
    | advanceWhile _ | advanceInspecting _ =>
      cases hrun
      rw [obey] at h ⊢
      obtain ⟨standing, hmove, hplace⟩ := operate_fault h
      exact ⟨standing, Move.map_eq_error.1 hmove, hplace⟩
    | readWhile _ =>
      cases hrun
      rw [obey] at h ⊢
      obtain ⟨standing, hmove, hplace⟩ := operate_fault h
      exact ⟨standing, Subject.advanceWhile_of_readWhile (Move.map_eq_error.1 hmove), hplace⟩
    | _ => cases hrun
  obtain ⟨standing, hfails, hplace⟩ := hmoved
  obtain ⟨stop, haccepts, hfailsAt⟩ := Move.runFrom_eq_error_iff.1 hfails
  exact ⟨stop, standing, haccepts, hfailsAt, hfailsAt.position_eq ▸ hplace⟩

/-- A command that fails leaves the session as it was, unless it goes on by itself, takes a number of
elements, or has opened another view. One that goes over elements while a test accepts them leaves
its cursor at the element that could not be had, be tested, or be stepped over, and has accepted all
elements before it. -/
theorem obey_fault (session : Session) (number : Nat) (command : Command) (fault : Fault)
    (h : (session.obey number command).2.outcome = .fault fault) :
    (command.IsSteady → (session.obey number command).1 = session) ∧
    (∀ view fails body cause, command = .block view fails body →
      session.openView number view = .error cause → (session.obey number command).1 = session) ∧
    (∀ test, command.run? (session.subjectOf number) = some test →
      ∃ stop last, Accepts (session.subjectOf number) test ⟨session.positionOf number, {}⟩ stop ∧
        FailsAt (session.subjectOf number) test stop fault last ∧
        (session.obey number command).1 = session.place number stop.position ∧
        (number < session.handles.size →
          (session.obey number command).1.positionOf number = stop.position)) := by
  refine ⟨fun hsteady => obey_steady hsteady h, ?_, ?_⟩
  · rintro view fails body cause rfl hopen
    rw [obey_block_of_error hopen]
  · intro test hrun
    obtain ⟨stop, last, haccepts, hfails, hplace⟩ := obey_run hrun h
    refine ⟨stop, last, haccepts, hfails, hplace, ?_⟩
    intro hnumber
    rw [hplace, positionOf_place hnumber]

/-- A session with one cursor at the start of three bytes. -/
def threeBytes : Session where
  subjects := #[.ofBytes false [1, 2, 3]]
  handles := #[⟨0, 0⟩]

/-- A test that fails at the second byte leaves the cursor there. -/
theorem obey_fault_threeBytes :
    (threeBytes.obey 0 (.advanceWhile (Judgement.failOn (.int 2)))).2.outcome = .fault .raised ∧
      ∃ stop last,
        Accepts (threeBytes.subjectOf 0) (fun _ => (Judgement.failOn (.int 2)).test) ⟨0, {}⟩ stop ∧
        FailsAt (threeBytes.subjectOf 0) (fun _ => (Judgement.failOn (.int 2)).test) stop .raised
          last ∧
        stop.position = 1 := by
  have hstep : Accepts (threeBytes.subjectOf 0) (fun _ => (Judgement.failOn (.int 2)).test) ⟨0, {}⟩
      ⟨1, { asked := 1 }⟩ := .next (by decide) rfl rfl rfl (.here _)
  have hraised : FailsAt (threeBytes.subjectOf 0) (fun _ => (Judgement.failOn (.int 2)).test)
      ⟨1, { asked := 1 }⟩ .raised ⟨1, { asked := 2 }⟩ := .test (by decide) rfl rfl
  have hmove : (Operation.advanceWhile (Judgement.failOn (.int 2)).test).move
      (threeBytes.subjectOf 0) ⟨threeBytes.positionOf 0, {}⟩ =
        .error .raised ⟨1, { asked := 2 }⟩ :=
    Move.map_eq_error.2 (Move.runFrom_eq_error_iff.2 ⟨_, hstep, hraised⟩)
  obtain ⟨hplace, hfault⟩ := operate_of_error hmove
  obtain ⟨-, -, hstops⟩ :=
    obey_fault threeBytes 0 (.advanceWhile (Judgement.failOn (.int 2))) .raised hfault
  obtain ⟨stop, last, haccepts, hfails, -, hposition⟩ := hstops _ rfl
  have hone := congrArg (positionOf · 0) hplace
  exact ⟨hfault, stop, last, haccepts, hfails, (hposition Nat.one_pos).symm.trans hone⟩

end Scanning.Session
