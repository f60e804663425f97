import Scanning.Move.Tested
import Scanning.Session.Judgement
import Scanning.Subject

namespace Scanning.Session

/-- Tests that a script can name and that use the copy of the cursor which they are given. -/
inductive Glance where
  /-- The element differs from the one in front of it. -/
  | noRepeat
  /-- The subject does not go on with these elements. -/
  | untilPrefix (elements : Subject)
  /-- The element after this one, if there is one, differs from the value. -/
  | lookahead (value : Value)
  /-- Moves the copy, then asks whether the element differs from the value. -/
  | move (distance : Int) (value : Value)
  /-- Moves the copy to the end, then asks whether the element differs from the value. -/
  | drain (value : Value)

/-- What the copy answers to a move of its own. -/
def onCopy {α : Type} (cursor : Cursor Subject) (move : Move Subject Unit α) : Except Fault α :=
  match cursor.perform () move with
  | .ok answer _ => .ok answer
  | .error fault _ => .error fault

/-- The verdict on an element and a copy of the cursor that stands at it. -/
def Glance.verdict (element : Value) (cursor : Cursor Subject) : Glance → Except Fault Bool
  | noRepeat =>
    if cursor.position = 0 then .ok true
    else match cursor.subject with
      | .scalars _ => .error .unsuitable
      | subject => (· != element) <$> subject.elementAt (cursor.position - 1)
  | untilPrefix elements => do
    let elements ← elements.elements
    return !(← onCopy cursor (Move.startsWith elements))
  | lookahead value => do
    match ← onCopy cursor Move.peek2 with
    | some (_, second) => return second != value
    | none => return true
  | move distance value => do
    onCopy cursor (Move.advanceBy distance)
    return element != value
  | drain value => do
    onCopy cursor (Move.advanceOver fun _ => true)
    return element != value

/-- The test that gives the verdicts of a glance. It remembers where the copies stood. -/
def Glance.test (glance : Glance) : Inspection Subject Memory Value :=
  fun element cursor memory =>
    let seen := { memory with seen := memory.seen ++ [cursor.position] }
    match glance.verdict element cursor with
    | .ok accepted => .ok accepted seen
    | .error fault => .error fault seen

instance : Coe Glance (Inspection Subject Memory Value) := ⟨Glance.test⟩

end Scanning.Session
