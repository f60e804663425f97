import Scanning.Span.Codec
import Scanning.Session.Judgement

namespace Scanning.Span

open Session (Memory)

/-- Who owns the memory. -/
inductive Owner where
  | bytes
  | mutableBytes
  | array
  deriving DecidableEq, Repr

/-- What is held: a window, or the span of the cursor itself, which ends with it. -/
inductive Held where
  | window (window : Window)
  | whole
  deriving DecidableEq, Repr

/-- Whether something that is held still shows memory. The span of the cursor shows none once the
cursor is closed. -/
def Held.isWindow : Held → Bool
  | .window _ => true
  | .whole => false

/-- The state of a session on one piece of memory: its owner changes it in place and tries to resize
it, a cursor reads it, and some of the windows that the cursor gave out are held under names. The
memory keeps its size while the cursor is open or a window is held. -/
structure Desk where
  owner : Owner
  format : CellFormat
  items : Array Cell
  isOpen : Bool := true
  position : Int
  held : List (String × Held) := []

/-- What can be asked in a session. Tests are of the values of the elements. -/
inductive Command where
  | advance
  | uncheckedAdvance
  | advanceBy (distance : Int)
  | uncheckedAdvanceBy (distance : Int)
  | advanceWhile (test : Test Memory Value)
  | peek
  | peek2
  | peek3
  | pop
  | uncheckedPop
  | popElement (value : Value)
  | popWhere (test : Test Memory Value)
  | position
  | count
  | isEmpty
  | describe
  | close
  | duplicate
  /-- These give out windows, which may be kept under a name. -/
  | span (name : Option String)
  | remainder (name : Option String)
  | read (count : Int) (name : Option String)
  | readWhile (test : Test Memory Value) (name : Option String)
  /-- Looking at what is held, and letting it go. -/
  | items (name : String)
  | isReadOnly (name : String)
  | write (name : String) (index : Int) (value : Int)
  | drop (name : String)
  /-- What the owner does. -/
  | poke (index : Int) (value : Int)
  | grow (value : Int)
  /-- Fields of binary data. -/
  | view (width : Int)
  | take (width : Int)
  | readAscii (width : Int)
  | uint (width : Int)
  | sint (width : Int)
  | f32
  | f64

/-- What a command answers. -/
inductive Answer where
  | value (value : Value)
  | cells (values : List Int)
  | number (n : Int)
  | double (bits : Nat)
  | noSuchName
  deriving Repr

namespace Desk

/-- A session on bytes. -/
def ofBytes (isMutable : Bool) (data : List UInt8) (position : Int) : Desk where
  owner := if isMutable then .mutableBytes else .bytes
  format := Cell.byteFormat
  items := (data.map Cell.ofByte).toArray
  position

/-- A session on an array. There is no array of numbers that its format has no room for. -/
def ofNumbers (format : CellFormat) (values : List Int) (position : Int) : Except Fault Desk := do
  let cells ← values.mapM (Cell.ofNumber format)
  return { owner := .array, format, items := cells.toArray, position }

/-- The span as the cursor sees it. -/
def memory (desk : Desk) : Span Cell := ⟨desk.items, desk.isOpen⟩

/-- Performs a move of the cursor. -/
def move {α : Type} (desk : Desk) (m : Move (Span Cell) Memory α) : Desk × Except Fault α :=
  match m desk.memory ⟨desk.position, {}⟩ with
  | .ok answer standing => ({ desk with position := standing.position }, .ok answer)
  | .error fault standing => ({ desk with position := standing.position }, .error fault)

/-- Performs a move and makes an answer of its result. -/
def ask {α : Type} (desk : Desk) (m : Move (Span Cell) Memory α) (answer : α → Answer) :
    Desk × Except Fault Answer :=
  let (desk, result) := desk.move m
  (desk, answer <$> result)

/-- A test of values as a test of cells. -/
def onCells (test : Test Memory Value) : Test Memory Cell := fun cell => test (.int cell.value)

/-- Names what is held from now on. What the name held before is let go. -/
def keep (desk : Desk) (name : Option String) (held : Held) : Desk :=
  match name with
  | some name => { desk with held := (name, held) :: desk.held.filter (·.1 != name) }
  | none => desk

/-- What a name holds. -/
def find? (desk : Desk) (name : String) : Option Held := desk.held.lookup name

/-- The numbers in a window now. -/
def valuesIn (desk : Desk) (window : Window) : List Int :=
  (window.items desk.items).map (·.value)

/-- The window of what is held; the cursor's own span has none once it is closed. -/
def windowOf (desk : Desk) : Held → Except Fault Window
  | .window window => .ok window
  | .whole => if desk.isOpen then .ok ⟨0, desk.items.size⟩ else .error .released

/-- Performs a move that gives out a window, or nothing. -/
def giveOut (desk : Desk) (name : Option String) (m : Move (Span Cell) Memory (Option Window)) :
    Desk × Except Fault Answer :=
  match desk.move m with
  | (desk, .ok (some window)) =>
    (desk.keep name (.window window), .ok (.cells (desk.valuesIn window)))
  | (desk, .ok none) => (desk, .ok (.value .none))
  | (desk, .error fault) => (desk, .error fault)

/-- Whether somebody still relies on the size of the memory. -/
def isHeld (desk : Desk) : Bool := desk.isOpen || desk.held.any (·.2.isWindow)

/-- A number as a cell of the owner, who refuses what does not fit. Fixed bytes take none. -/
def cellOf (desk : Desk) (value : Int) : Except Fault Cell :=
  match desk.owner with
  | .bytes => .error .fixedItem
  | .mutableBytes => if 0 ≤ value ∧ value < 256 then .ok ⟨desk.format, value⟩ else .error .notAByte
  | .array => Cell.ofNumber desk.format value

/-- The place that an index means to the owner. -/
def placeOf (desk : Desk) (index : Int) : Except Fault Nat :=
  match resolveIndex desk.items.size index with
  | some place => .ok place
  | none => .error (if desk.owner = .array then .arrayIndex else .noElement .mutableBytes)

/-- The owner changes a cell in place. An array looks at the index before the value, bytes look at
the value first. -/
def poke (desk : Desk) (index value : Int) : Except Fault Desk :=
  if desk.owner = .array then do
    let place ← desk.placeOf index
    let cell ← desk.cellOf value
    return { desk with items := desk.items.setIfInBounds place cell }
  else do
    let cell ← desk.cellOf value
    let place ← desk.placeOf index
    return { desk with items := desk.items.setIfInBounds place cell }

/-- The owner appends a cell, which needs the memory for itself. Fixed bytes cannot even be asked
to. -/
def grow (desk : Desk) (value : Int) : Except Fault Desk :=
  if desk.owner = .bytes then .error .fixedSize
  else do
    let cell ← desk.cellOf value
    if desk.isHeld then
      throw (if desk.owner = .array then .resizeHeldArray else .resizeHeldBytes)
    else
      return { desk with items := desk.items.push cell }

/-- A change by the owner, which answers nothing. -/
def change (desk : Desk) (changed : Except Fault Desk) : Desk × Except Fault Answer :=
  match changed with
  | .ok desk => (desk, .ok (.value .none))
  | .error fault => (desk, .error fault)

/-- Looks at something held. -/
def inspect (desk : Desk) (name : String) (look : Window → Except Fault Answer) :
    Desk × Except Fault Answer :=
  match desk.find? name with
  | some held => (desk, desk.windowOf held >>= look)
  | none => (desk, .ok .noSuchName)

/-- How the cursor is shown. -/
def describe : Move (Span Cell) Memory String := Move.look fun span place => do
  return s!"SpanCursor(position={place}, len={← span.length})"

private def pairOf (cells : Cell × Cell) : Value :=
  .tuple [.int cells.1.value, .int cells.2.value]

private def tripleOf (cells : Cell × Cell × Cell) : Value :=
  .tuple [.int cells.1.value, .int cells.2.1.value, .int cells.2.2.value]

private def optional {α : Type} (value : α → Value) : Option α → Answer
  | some a => .value (value a)
  | none => .value .none

private def nothing : Unit → Answer := fun _ => .value .none

private def flag (b : Bool) : Answer := .value (.bool b)

private def cell (c : Cell) : Value := .int c.value

/-- Obeys one command. -/
def obey (desk : Desk) : Command → Desk × Except Fault Answer
  | .advance => desk.ask advance nothing
  | .uncheckedAdvance => desk.ask uncheckedAdvance nothing
  | .advanceBy distance => desk.ask (advanceBy distance) nothing
  | .uncheckedAdvanceBy distance => desk.ask (uncheckedAdvanceBy distance) nothing
  | .advanceWhile test => desk.ask (advanceWhile (onCells test)) nothing
  | .peek => desk.ask peek (optional cell)
  | .peek2 => desk.ask peek2 (optional pairOf)
  | .peek3 => desk.ask peek3 (optional tripleOf)
  | .pop => desk.ask pop (optional cell)
  | .uncheckedPop => desk.ask uncheckedPop (fun c => .value (cell c))
  | .popElement value =>
    match value.number? with
    | some n => desk.ask (popElement ⟨desk.format, n⟩) flag
    | none => desk.ask isEmpty (fun _ => flag false)
  | .popWhere test => desk.ask (popWhere (onCells test)) (optional cell)
  | .position => desk.ask Span.position (fun n => .value (.int n))
  | .count => desk.ask count (fun n => .value (.int n))
  | .isEmpty => desk.ask isEmpty flag
  | .describe => desk.ask describe (fun s => .value (.text s))
  | .close => ({ desk with isOpen := false }, .ok (.value .none))
  | .duplicate => (desk, .error .singleOwner)
  | .span name =>
    let kept := desk.keep name .whole
    (kept, do return .cells (desk.valuesIn (← desk.windowOf .whole)))
  | .remainder name => desk.giveOut name (some <$> remainder)
  | .read count name => desk.giveOut name (read count)
  | .readWhile test name => desk.giveOut name (some <$> readWhile (onCells test))
  | .items name => desk.inspect name fun window => .ok (.cells (desk.valuesIn window))
  | .isReadOnly name => desk.inspect name fun _ => .ok (flag true)
  | .write name _ _ => desk.inspect name fun _ => .error .readOnly
  | .drop name =>
    match desk.find? name with
    | some _ =>
      ({ desk with held := desk.held.filter (·.1 != name) }, .ok (.value .none))
    | none => (desk, .ok .noSuchName)
  | .poke index value => desk.change (desk.poke index value)
  | .grow value => desk.change (desk.grow value)
  | .view width => desk.giveOut none (some <$> view width)
  | .take width => desk.ask (take width) (fun data => .value (.bytes false data))
  | .readAscii width => desk.ask (readAscii width) (fun s => .value (.text s))
  | .uint width => desk.ask (uint width) (fun n => .number n)
  | .sint width => desk.ask (sint width) .number
  | .f32 => desk.ask f32 .double
  | .f64 => desk.ask f64 .double

end Desk

end Scanning.Span
