import Scanning.Move.Basic
import Scanning.Span.Cell

namespace Scanning

/-- Elements in memory. Nothing can be asked of a span that is no longer open. -/
structure Span (ε : Type) where
  items : Array ε
  isOpen : Bool := true

/-- A piece of memory, from the element number `start` up to the element number `stop`. -/
structure Window where
  start : Nat
  stop : Nat
  deriving DecidableEq, Repr

/-- The elements that stand in the window now. -/
def Window.items {ε : Type} (window : Window) (memory : Array ε) : List ε :=
  (memory.extract window.start window.stop).toList

namespace Span

variable {τ ε α : Type}

/-- The number of elements. -/
def length (span : Span ε) : Except Fault Nat :=
  if span.isOpen then .ok span.items.size else .error .released

/-- The element at a position. -/
def get (span : Span ε) (index : Int) : Except Fault ε :=
  if span.isOpen then
    match (resolveIndex span.items.size index).bind (span.items[·]?) with
    | some element => .ok element
    | none => .error (.noElement .span)
  else .error .released

/-- The window between two slice bounds. -/
def window (span : Span ε) (low high : Int) : Except Fault Window :=
  if span.isOpen then
    .ok ⟨clampIndex span.items.size low, clampIndex span.items.size high⟩
  else .error .released

/-- A position of a cursor over the span: anywhere from the start to the end. -/
def checkPosition (span : Span ε) (position : Int) : Except Fault Unit := do
  let size ← span.length
  if 0 ≤ position ∧ position ≤ size then return ()
  else throw (.outOfBounds (.position position size))

/-- The position, which can be asked for even after the span is closed. -/
def position : Move (Span ε) τ Int := Move.look fun _ place => .ok place

/-- How many elements are left. -/
def count : Move (Span ε) τ Int := Move.look fun span place => do
  return (← span.length) - place

/-- Whether nothing is left. -/
def isEmpty : Move (Span ε) τ Bool := Move.look fun span place => do
  return decide (place = (← span.length))

/-- All that is left. -/
def remainder : Move (Span ε) τ Window := Move.look fun span place => do
  span.window place (← span.length)

/-- Past the current element; refused at the end. -/
def advance : Move (Span ε) τ Unit := Move.consume fun span place => do
  if place ≥ (← span.length) then throw (.outOfBounds .spanExhausted)
  else return ((), place + 1)

/-- Steps over an element without looking whether there is one. Where its precondition holds an
unchecked move does the same as the checked one; where it does not, it fails as an unmet assertion
instead of reporting bounds. -/
def uncheckedAdvance : Move (Span ε) τ Unit := Move.consume fun span place => do
  if place < (← span.length) then return ((), place + 1)
  else throw .unmet

/-- That many elements on, or back when the distance is negative. -/
def advanceBy (distance : Int) : Move (Span ε) τ Unit := Move.consume fun span place => do
  let size ← span.length
  if 0 ≤ place + distance ∧ place + distance ≤ size then return ((), place + distance)
  else throw (.outOfBounds (.pastEither distance place size))

/-- That many elements on or back, which the caller knows to stay in the span. -/
def uncheckedAdvanceBy (distance : Int) : Move (Span ε) τ Unit := Move.consume fun span place => do
  if 0 ≤ place + distance ∧ place + distance ≤ (← span.length) then
    return ((), place + distance)
  else throw .unmet

/-- The current element; nothing at the end. -/
def peek : Move (Span ε) τ (Option ε) := Move.look fun span place => do
  if place ≥ (← span.length) then return none
  else return some (← span.get place)

/-- The next two elements; nothing if fewer are left. -/
def peek2 : Move (Span ε) τ (Option (ε × ε)) := Move.look fun span place => do
  if place + 1 ≥ (← span.length) then return none
  else return some (← span.get place, ← span.get (place + 1))

/-- The next three elements; nothing if fewer are left. -/
def peek3 : Move (Span ε) τ (Option (ε × ε × ε)) := Move.look fun span place => do
  if place + 2 ≥ (← span.length) then return none
  else return some (← span.get place, ← span.get (place + 1), ← span.get (place + 2))

/-- Takes the current element, which the caller knows to be there. -/
def uncheckedPop : Move (Span ε) τ ε := Move.consume fun span place => do
  if place < (← span.length) then return (← span.get place, place + 1)
  else throw .unmet

/-- Takes the current element; nothing at the end. -/
def pop : Move (Span ε) τ (Option ε) := fun span standing =>
  match span.length with
  | .error fault => .error fault standing
  | .ok size =>
    if standing.position ≥ size then .ok none standing
    else (some <$> uncheckedPop : Move (Span ε) τ (Option ε)) span standing

/-- Whether there is a current element and it equals `element`. -/
def isNext [BEq ε] (element : ε) : Move (Span ε) τ Bool := Move.look fun span place => do
  if place ≥ (← span.length) then return false
  else return (← span.get place) == element

/-- Takes the current element if it equals `element`. -/
def popElement [BEq ε] (element : ε) : Move (Span ε) τ Bool := do
  if ← isNext element then
    uncheckedAdvance
    return true
  else return false

/-- Takes the current element if the test accepts it. -/
def popWhere (test : Test τ ε) : Move (Span ε) τ (Option ε) := fun span standing =>
  match span.length with
  | .error fault => .error fault standing
  | .ok size =>
    if standing.position ≥ size then .ok none standing
    else match span.get standing.position with
      | .error fault => .error fault standing
      | .ok element =>
        match test element standing.memory with
        | .error fault memory => .error fault { standing with memory }
        | .ok false memory => .ok none { standing with memory }
        | .ok true memory =>
          ((fun _ => some element) <$> uncheckedAdvance : Move (Span ε) τ (Option ε)) span
            { standing with memory }

/-- Goes on below `size` while the test accepts the current element. -/
def runBelow (span : Span ε) (size : Nat) (test : Test τ ε) (standing : Standing τ) :
    EStateM.Result Fault (Standing τ) Unit :=
  if standing.position < size then
    match span.get standing.position with
    | .error fault => .error fault standing
    | .ok element =>
      match test element standing.memory with
      | .error fault memory => .error fault { standing with memory }
      | .ok false memory => .ok () { standing with memory }
      | .ok true memory => runBelow span size test { position := standing.position + 1, memory }
  else .ok () standing
termination_by ((size : Int) - standing.position).toNat

/-- Advances while the test accepts the current element. When the test fails, the cursor stands at
the element that was being tested. -/
def advanceWhile (test : Test τ ε) : Move (Span ε) τ Unit := fun span standing =>
  match span.length with
  | .error fault => .error fault standing
  | .ok size => runBelow span size test standing

/-- Whether fewer than `count` elements are left. -/
def lacks (count : Int) : Move (Span ε) τ Bool := Move.look fun span place => do
  return decide (place + count > (← span.length))

/-- Takes exactly `count` elements; nothing, and no move, if fewer are left. -/
def read (count : Int) : Move (Span ε) τ (Option Window) := do
  if count < 0 then throw (.negativeCount count)
  else
    let start ← position
    if ← lacks count then return none
    else
      uncheckedAdvanceBy count
      some <$> Move.look fun span _ => span.window start (start + count)

/-- Takes the longest run of elements that the test accepts. -/
def readWhile (test : Test τ ε) : Move (Span ε) τ Window := do
  let start ← position
  advanceWhile test
  Move.look fun span place => span.window start place

end Span

end Scanning
