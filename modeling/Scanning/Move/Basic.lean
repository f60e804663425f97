import Scanning.Cursor

namespace Scanning.Move

open IndexSpace

variable {σ τ ε α : Type}

/-- A move that only looks. -/
def look (f : σ → Int → Except Fault α) : Move σ τ α := fun subject standing =>
  match f subject standing.position with
  | .ok answer => .ok answer standing
  | .error fault => .error fault standing

/-- A move that goes to the index it computes, or fails and stays. -/
def consume (f : σ → Int → Except Fault (α × Int)) : Move σ τ α := fun subject standing =>
  match f subject standing.position with
  | .ok (answer, next) => .ok answer { standing with position := next }
  | .error fault => .error fault standing

/-- Where the cursor stands. -/
def position : Move σ τ Int := look fun _ index => .ok index

variable [IndexSpace σ ε]

/-- Whether no element is left. -/
def isAtEnd : Move σ τ Bool := look fun subject index => .ok (index = endIndex subject)

/-- The elements from the position on. -/
def remainder : Move σ τ (List ε) := look fun subject index =>
  slice subject index (endIndex subject)

/-- The elements between an earlier index and the position. -/
def consumedSince (start : Int) : Move σ τ (List ε) := look fun subject index =>
  slice subject start index

/-- Past the current element; refused at the end. -/
def advance : Move σ τ Unit := consume fun subject index =>
  if index = endIndex subject then .error (.outOfBounds .subjectExhausted)
  else do return ((), ← after subject index)

/-- That many elements on, or back when the distance is negative. -/
def advanceBy (distance : Int) : Move σ τ Unit := consume fun subject index => do
  return ((), ← offset subject index distance)

/-- The current element; nothing at the end. -/
def peek : Move σ τ (Option ε) := look fun subject index =>
  if index = endIndex subject then .ok none
  else some <$> elementAt subject index

/-- The next two elements; nothing if fewer are left. -/
def peek2 : Move σ τ (Option (ε × ε)) := look fun subject index =>
  if index = endIndex subject then .ok none
  else do
    let second ← after subject index
    if second = endIndex subject then return none
    else return some (← elementAt subject index, ← elementAt subject second)

/-- The next three elements; nothing if fewer are left. -/
def peek3 : Move σ τ (Option (ε × ε × ε)) := look fun subject index =>
  if index = endIndex subject then .ok none
  else do
    let second ← after subject index
    if second = endIndex subject then return none
    else
      let third ← after subject second
      if third = endIndex subject then return none
      else
        return some
          (← elementAt subject index, ← elementAt subject second, ← elementAt subject third)

/-- Whether the current element equals `element`. -/
def hasPrefix [BEq ε] (element : ε) : Move σ τ Bool := look fun subject index =>
  if index = endIndex subject then .ok false
  else (· == element) <$> elementAt subject index

/-- Whether the subject goes on with these elements. -/
def startsWith [BEq ε] (elements : List ε) : Move σ τ Bool := look fun subject index =>
  Option.isSome <$> prefixEnd subject index elements

/-- Takes the current element; nothing at the end. -/
def pop : Move σ τ (Option ε) := consume fun subject index => do
  match ← takeAt subject index with
  | some (element, next) => return (some element, next)
  | none => return (none, index)

/-- Takes the current element if it equals `element`. -/
def popElement [BEq ε] (element : ε) : Move σ τ Bool := consume fun subject index =>
  if index = endIndex subject then .ok (false, index)
  else do
    if (← elementAt subject index) == element then return (true, ← after subject index)
    else return (false, index)

/-- Takes the elements if the subject goes on with them. -/
def readPrefix [BEq ε] (elements : List ε) : Move σ τ Bool := consume fun subject index => do
  match ← prefixEnd subject index elements with
  | some next => return (true, next)
  | none => return (false, index)

/-- Takes the first of the lists that the subject goes on with. -/
def readAnyPrefix [BEq ε] : List (List ε) → Move σ τ Bool
  | [] => return false
  | elements :: others => do
    if ← readPrefix elements then return true
    else readAnyPrefix others

/-- Takes exactly `count` elements; nothing, and no move, if fewer are left. The cursor has moved
when the slice is taken, so elements that cannot be decoded are behind it. -/
def read (count : Int) : Move σ τ (Option (List ε)) := fun subject standing =>
  if count < 0 then .error (.negativeCount count) standing
  else match offsetLimited subject standing.position count (endIndex subject) with
    | .error fault => .error fault standing
    | .ok none => .ok none standing
    | .ok (some next) =>
      match slice subject standing.position next with
      | .error fault => .error fault { standing with position := next }
      | .ok elements => .ok (some elements) { standing with position := next }

end Scanning.Move
