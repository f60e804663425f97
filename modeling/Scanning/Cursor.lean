import Scanning.ScalarView

namespace Scanning

/-- A subject and the index of the element to be read next. -/
structure Cursor (σ : Type) where
  subject : σ
  position : Int

/-- The position of a cursor, and what the caller's tests remember. -/
structure Standing (τ : Type) where
  position : Int
  memory : τ

/-- An operation of a cursor over `σ` that answers with an `α`. It reads the subject, may change the
position, and answers or fails; the subject is never changed. What it has moved before a failure
stays moved, so that the position tells how far it came, and what the caller's tests remember is
carried along. -/
abbrev Move (σ τ α : Type) := ReaderT σ (EStateM Fault (Standing τ)) α

/-- A test of elements that remembers a `τ` and may fail. -/
abbrev Test (τ ε : Type) := ε → EStateM Fault τ Bool

/-- A test that may also use a copy of the cursor. -/
abbrev Inspection (σ τ ε : Type) := ε → Cursor σ → EStateM Fault τ Bool

namespace Cursor

open IndexSpace

variable {σ τ ε α : Type}

/-- A cursor at an index, which must lie between the start and the end of the subject. -/
def at? [IndexSpace σ ε] (subject : σ) (position : Int) : Except Fault (Cursor σ) :=
  if 0 ≤ position ∧ position ≤ endIndex subject then .ok ⟨subject, position⟩
  else .error (.outOfBounds (.position position (endIndex subject)))

/-- A cursor of its own at the same place. -/
def copy [IndexSpace σ ε] (cursor : Cursor σ) : Except Fault (Cursor σ) :=
  at? cursor.subject cursor.position

/-- Performs a move from the position of a cursor. -/
def perform (cursor : Cursor σ) (memory : τ) (move : Move σ τ α) :
    EStateM.Result Fault (Standing τ) α :=
  move cursor.subject ⟨cursor.position, memory⟩

end Cursor

end Scanning
