import Scanning.Session.Run

namespace Scanning.Session

/-- The cursor that a step of a script is for. -/
def target? (session : Session) (number : Nat) : Option String → Option Nat
  | some name => session.names.lookup name
  | none => some number

variable {session : Session} {number target : Nat} {on : Option String} {command : Command}
  {rest : Script}

/-- One step for a cursor that there is, and then the others. -/
theorem run_step_eq_of_some (h : session.target? number on = some target) :
    session.run number (.step on command rest) =
      (((session.obey target command).1.run number rest).1,
        (session.obey target command).2 :: ((session.obey target command).1.run number rest).2) := by
  unfold target? at h
  cases on with
  | none =>
    cases h
    rfl
  | some name =>
    dsimp only at h
    rw [run.eq_def]
    simp only [h]

/-- A step for no cursor, and then the others. -/
theorem run_step_eq_of_none (h : session.target? number on = none) :
    session.run number (.step on command rest) =
      ((session.run number rest).1, unknownName :: (session.run number rest).2) := by
  unfold target? at h
  cases on with
  | none => cases h
  | some name =>
    dsimp only at h
    rw [run.eq_def]
    simp only [h]

/-- A command that is asked of a cursor of the session is obeyed by it before the rest of the script
runs. -/
theorem run_step_of_some (h : session.target? number on = some target) :
    (session.run number (.step on command rest)).1 =
      ((session.obey target command).1.run number rest).1 := by
  rw [run_step_eq_of_some h]

/-- A command that is asked of a cursor that there is not leaves the session to the rest of the
script. -/
theorem run_step_of_none (h : session.target? number on = none) :
    (session.run number (.step on command rest)).1 = (session.run number rest).1 := by
  rw [run_step_eq_of_none h]

/-- The sessions that there are while a script is obeyed: before and after each of its commands, and
in each block that it opens. -/
inductive During : Session → Nat → Script → Session → Prop where
  | here (session : Session) (number : Nat) (script : Script) : During session number script session
  | inside {session opened now : Session} {number target inner : Nat} {on : Option String}
      {view : Option Subject} {ending : Ending} {body rest : Script}
      (htarget : session.target? number on = some target)
      (hopen : session.openView target view = .ok (opened, inner))
      (hbody : During opened inner body now) :
      During session number (.step on (.block view ending body) rest) now
  | later {session now : Session} {number target : Nat} {on : Option String} {command : Command}
      {rest : Script} (htarget : session.target? number on = some target)
      (hrest : During (session.obey target command).1 number rest now) :
      During session number (.step on command rest) now
  | skipped {session now : Session} {number : Nat} {on : Option String} {command : Command}
      {rest : Script} (htarget : session.target? number on = none)
      (hrest : During session number rest now) : During session number (.step on command rest) now

/-- The end of a script is one of the sessions that there are. -/
theorem during_run (number : Nat) :
    (session : Session) → (script : Script) →
      During session number script (session.run number script).1
  | session, .done => .here session number .done
  | session, .step on command rest => by
    cases htarget : session.target? number on with
    | some target =>
      rw [run_step_of_some htarget]
      exact .later htarget (during_run number _ rest)
    | none =>
      rw [run_step_of_none htarget]
      exact .skipped htarget (during_run number session rest)

end Scanning.Session
