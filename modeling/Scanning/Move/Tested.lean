import Scanning.Move.Basic

namespace Scanning.Move

open IndexSpace

variable {σ τ ε : Type} [IndexSpace σ ε]

/-- Goes on while the test accepts the current element. The test is also told the index. When the
test fails, the cursor keeps the elements that were accepted before. -/
def runFrom (subject : σ) (test : Int → Test τ ε) (standing : Standing τ) :
    EStateM.Result Fault (Standing τ) Unit :=
  if standing.position = endIndex subject then .ok () standing
  else match elementAt subject standing.position with
    | .error fault => .error fault standing
    | .ok element =>
      match test standing.position element standing.memory with
      | .error fault memory => .error fault { standing with memory }
      | .ok false memory => .ok () { standing with memory }
      | .ok true memory =>
        match _ : after subject standing.position with
        | .error fault => .error fault { standing with memory }
        | .ok next => runFrom subject test { position := next, memory }
termination_by ((endIndex subject : Int) - standing.position).toNat
decreasing_by exact room_after_lt ‹_›

/-- Advances while the test accepts the current element. -/
def advanceWhile (test : Test τ ε) : Move σ τ Unit := fun subject standing =>
  runFrom subject (fun _ => test) standing

/-- What an inspection says of the element at an index, when it is given a fresh copy of the cursor
there. -/
def withCopy (subject : σ) (test : Inspection σ τ ε) (index : Int) : Test τ ε :=
  fun element memory =>
    match Cursor.at? subject index with
    | .error fault => .error fault memory
    | .ok cursor => test element cursor memory

/-- Advances while the test accepts the current element and a copy of the cursor. Each call gets a
fresh copy, so what the test does with it does not touch the run. -/
def advanceInspecting (test : Inspection σ τ ε) : Move σ τ Unit := fun subject standing =>
  runFrom subject (withCopy subject test) standing

/-- Advances while the elements are in a class. -/
def advanceOver (inClass : ε → Bool) : Move σ τ Unit :=
  advanceWhile fun element => return inClass element

/-- Takes the longest run of elements that the test accepts. -/
def readWhile (test : Test τ ε) : Move σ τ (List ε) := do
  let start ← position
  advanceWhile test
  consumedSince start

/-- Takes the current element if the test accepts it. -/
def popWhere (test : Test τ ε) : Move σ τ (Option ε) := fun subject standing =>
  if standing.position = endIndex subject then .ok none standing
  else match elementAt subject standing.position with
    | .error fault => .error fault standing
    | .ok element =>
      match test element standing.memory with
      | .error fault memory => .error fault { standing with memory }
      | .ok false memory => .ok none { standing with memory }
      | .ok true memory =>
        match after subject standing.position with
        | .error fault => .error fault { standing with memory }
        | .ok next => .ok (some element) { position := next, memory }

end Scanning.Move
