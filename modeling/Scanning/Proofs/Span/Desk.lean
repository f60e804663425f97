import Scanning.Proofs.Span.Failure
import Scanning.Proofs.Span.Safety
import Scanning.Span.Session

namespace Scanning.Span

open Move (Steady)
open Session (Memory)

variable {τ ε α β : Type}

/-- A move that leads from a place in an open span to a place in it, also when it fails. -/
def StaysInside (move : Move (Span ε) τ α) : Prop :=
  ∀ ⦃elements : List ε⦄ ⦃k : Nat⦄, k ≤ elements.length → ∀ memory : τ,
    Lands elements.length (fun _ => True) (move (ofList elements) ⟨k, memory⟩)

theorem Lands.inside {size : Nat} {fails : Fault → Prop}
    {outcome : EStateM.Result Fault (Standing τ) α} (h : Lands size fails outcome) :
    0 ≤ (Move.outcome outcome).2.position ∧ (Move.outcome outcome).2.position ≤ size := by
  cases h with
  | ok hk | error hk => exact ⟨Int.natCast_nonneg _, Int.ofNat_le.2 hk⟩

theorem staysInside_pure (answer : α) : StaysInside (pure answer : Move (Span ε) τ α) :=
  fun _ _ hk memory => .ok hk answer memory

theorem staysInside_throw (fault : Fault) : StaysInside (throw fault : Move (Span ε) τ α) :=
  fun _ _ hk memory => .error hk trivial memory

theorem staysInside_look (f : Span ε → Int → Except Fault α) :
    StaysInside (Move.look f : Move (Span ε) τ α) := by
  intro elements k hk memory
  rw [Move.look]
  split
  · exact .ok hk _ memory
  · exact .error hk trivial memory

theorem StaysInside.map {move : Move (Span ε) τ α} (h : StaysInside move) (f : α → β) :
    StaysInside (f <$> move) := fun _ _ hk memory => (h hk memory).map f

/-- Two moves that stay inside, one after the other, stay inside. -/
theorem StaysInside.bind {move : Move (Span ε) τ α} {next : α → Move (Span ε) τ β}
    (h : StaysInside move) (hnext : ∀ answer, StaysInside (next answer)) :
    StaysInside (move >>= next) := by
  intro elements k hk memory
  have hlands := h hk memory
  generalize houtcome : move (ofList elements) ⟨k, memory⟩ = outcome at hlands
  cases hlands with
  | ok hstop answer memory' =>
    rw [Move.bind_of_ok houtcome]
    exact hnext answer hstop memory'
  | error hstop hfault memory' =>
    rw [Move.bind_of_error houtcome]
    exact .error hstop hfault memory'

/-- Taking a window leads past its elements, or fails in place when there are too few. -/
theorem staysInside_view (width : Int) : StaysInside (view width : Move (Span ε) τ Window) := by
  have hread : StaysInside (read width : Move (Span ε) τ (Option Window)) :=
    fun _ _ hk _ => lands_read hk width fun _ => trivial
  refine hread.bind fun found => ?_
  cases found with
  | some window => exact staysInside_pure window
  | none =>
    exact (staysInside_look _).bind fun left => (staysInside_look _).bind fun place =>
      staysInside_throw _

section Stored

variable [Stored ε]

theorem staysInside_take (width : Int) :
    StaysInside (take width : Move (Span ε) τ (List UInt8)) :=
  (staysInside_view width).bind fun _ _ _ hk memory => .ok hk _ memory

theorem staysInside_readAscii (width : Int) :
    StaysInside (readAscii width : Move (Span ε) τ String) :=
  (staysInside_take width).bind fun _ => staysInside_pure _

theorem staysInside_uint (width : Int) : StaysInside (uint width : Move (Span ε) τ Nat) :=
  (staysInside_take width).bind fun _ => staysInside_pure _

theorem staysInside_sint (width : Int) : StaysInside (sint width : Move (Span ε) τ Int) :=
  (staysInside_take width).bind fun _ => staysInside_pure _

/-- Taking a number of bytes exactly ends behind its elements, also when these have another number
of bytes. -/
theorem staysInside_takeExact (width : Nat) :
    StaysInside (takeExact width : Move (Span ε) τ (List UInt8)) := by
  refine (staysInside_take width).bind fun bytes => ?_
  split
  · exact staysInside_pure bytes
  · exact staysInside_throw _

theorem staysInside_f32 : StaysInside (f32 : Move (Span ε) τ Nat) :=
  (staysInside_takeExact 4).bind fun _ => staysInside_pure _

theorem staysInside_f64 : StaysInside (f64 : Move (Span ε) τ Nat) :=
  (staysInside_takeExact 8).bind fun _ => staysInside_pure _

end Stored

namespace Command

/-- The test of a command that goes on as long as it accepts. -/
def run? : Command → Option (Test Memory Value)
  | advanceWhile test | readWhile test _ => some test
  | _ => none

/-- How many bytes of a floating-point number a command reads. -/
def floatWidth? : Command → Option Nat
  | f32 => some 4
  | f64 => some 8
  | _ => none

/-- Whether a command asks the cursor for elements or for their number. -/
def NeedsMemory : Command → Prop
  | position | close | duplicate => False
  | items _ | isReadOnly _ | write _ _ _ | drop _ => False
  | poke _ _ | grow _ => False
  | _ => True

end Command

namespace Desk

/-- The session after these commands. A command that fails does not end it. -/
def after (desk : Desk) (commands : List Command) : Desk :=
  commands.foldl (fun desk command => (desk.obey command).1) desk

variable {desk : Desk} {m : Move (Span Cell) Memory α} {standing : Standing Memory}
  {command : Command}

theorem ask_of_ok {found : α} (h : m desk.memory ⟨desk.position, {}⟩ = .ok found standing)
    (answer : α → Answer) :
    desk.ask m answer = ({ desk with position := standing.position }, .ok (answer found)) := by
  rw [ask, move, h]
  rfl

theorem ask_of_error {fault : Fault} (h : m desk.memory ⟨desk.position, {}⟩ = .error fault standing)
    (answer : α → Answer) :
    desk.ask m answer = ({ desk with position := standing.position }, .error fault) := by
  rw [ask, move, h]
  rfl

variable {gives : Move (Span Cell) Memory (Option Window)}

/-- A window that is given out may be held from now on. -/
theorem giveOut_of_ok {found : Option Window}
    (h : gives desk.memory ⟨desk.position, {}⟩ = .ok found standing) (name : Option String) :
    ∃ held reply, desk.giveOut name gives =
      ({ desk with position := standing.position, held }, .ok reply) := by
  rw [giveOut, move, h]
  cases found with
  | none => exact ⟨desk.held, _, rfl⟩
  | some window =>
    cases name with
    | none => exact ⟨desk.held, _, rfl⟩
    | some name => exact ⟨_, _, rfl⟩

/-- Nothing is handed out when the move fails. -/
theorem giveOut_of_error {fault : Fault}
    (h : gives desk.memory ⟨desk.position, {}⟩ = .error fault standing) (name : Option String) :
    desk.giveOut name gives = ({ desk with position := standing.position }, .error fault) := by
  rw [giveOut, move, h]

/-- What the commands that are not moves leave as it is. The memory keeps its size while the cursor
is open. -/
structure Spares (desk desk' : Desk) : Prop where
  owner : desk'.owner = desk.owner
  format : desk'.format = desk.format
  position : desk'.position = desk.position
  isOpen : desk'.isOpen = desk.isOpen
  size : desk.isOpen = true → desk'.items.size = desk.items.size

theorem Spares.rfl : desk.Spares desk :=
  ⟨.refl _, .refl _, .refl _, .refl _, fun _ => .refl _⟩

theorem spares_keep (name : Option String) (held : Held) : desk.Spares (desk.keep name held) := by
  cases name with
  | none => exact .rfl
  | some name => exact ⟨rfl, rfl, rfl, rfl, fun _ => rfl⟩

theorem spares_inspect (name : String) (look : Window → Except Fault Answer) :
    desk.Spares (desk.inspect name look).1 := by
  rw [inspect]
  split <;> exact .rfl

/-- A change by the owner spares what it spares when it is made, and everything when it is
refused. -/
theorem spares_change {changed : Except Fault Desk}
    (h : ∀ desk', changed = .ok desk' → desk.Spares desk') :
    desk.Spares (desk.change changed).1 := by
  cases changed with
  | error fault => exact .rfl
  | ok desk' => exact h desk' rfl

/-- To poke is to write another cell over one in memory, and a cell that the owner accepts. -/
theorem exists_of_poke {index value : Int} {desk' : Desk} (h : desk.poke index value = .ok desk') :
    ∃ place cell, desk.cellOf value = .ok cell ∧
      desk' = { desk with items := desk.items.setIfInBounds place cell } := by
  rw [poke] at h
  split at h
  · obtain ⟨place, -, h⟩ := Fault.bind_eq_ok.1 h
    obtain ⟨cell, hcell, h⟩ := Fault.bind_eq_ok.1 h
    cases h
    exact ⟨place, cell, hcell, rfl⟩
  · obtain ⟨cell, hcell, h⟩ := Fault.bind_eq_ok.1 h
    obtain ⟨place, -, h⟩ := Fault.bind_eq_ok.1 h
    cases h
    exact ⟨place, cell, hcell, rfl⟩

/-- What is appended is a cell that the owner accepts, and nothing is appended while somebody relies
on the size of the memory. -/
theorem exists_of_grow {value : Int} {desk' : Desk} (h : desk.grow value = .ok desk') :
    ∃ cell, desk.cellOf value = .ok cell ∧ desk.isHeld = false ∧
      desk' = { desk with items := desk.items.push cell } := by
  rw [grow] at h
  split at h
  · cases h
  · obtain ⟨cell, hcell, h⟩ := Fault.bind_eq_ok.1 h
    split at h
    · cases h
    · cases h
      exact ⟨cell, hcell, Bool.eq_false_iff.2 ‹_›, rfl⟩

/-- Storing a number in the place of another keeps the size of the memory and the cursor. -/
theorem spares_poke {index value : Int} {desk' : Desk} (h : desk.poke index value = .ok desk') :
    desk.Spares desk' := by
  obtain ⟨place, cell, -, rfl⟩ := exists_of_poke h
  exact ⟨rfl, rfl, rfl, rfl, fun _ => Array.size_setIfInBounds⟩

/-- An open cursor relies on the size of the memory. -/
theorem isHeld_of_isOpen (h : desk.isOpen = true) : desk.isHeld = true := by
  rw [isHeld, h, Bool.true_or]

/-- Appending a number is refused while the cursor is open, so that the size is kept then. -/
theorem spares_grow {value : Int} {desk' : Desk} (h : desk.grow value = .ok desk') :
    desk.Spares desk' := by
  obtain ⟨cell, -, hfree, rfl⟩ := exists_of_grow h
  exact ⟨rfl, rfl, rfl, rfl, fun hopen => absurd (isHeld_of_isOpen hopen) (Bool.eq_false_iff.1 hfree)⟩

theorem spares_drop (name : String) : desk.Spares (desk.obey (.drop name)).1 := by
  rw [obey]
  split
  · exact ⟨rfl, rfl, rfl, rfl, fun _ => rfl⟩
  · exact .rfl

/-- A command has moved the cursor only if it has not failed. -/
def InPlace (desk : Desk) (outcome : Desk × Except Fault Answer) : Prop :=
  ∀ fault, outcome.2 = .error fault → outcome.1.position = desk.position

/-- A command that spares the cursor leaves it in place when it fails. -/
theorem Spares.inPlace {outcome : Desk × Except Fault Answer} (h : desk.Spares outcome.1) :
    desk.InPlace outcome := fun _ _ => h.position

/-- A move that stays when it fails leaves the cursor in place when the command fails. -/
theorem inPlace_ask (h : Steady m) (answer : α → Answer) : desk.InPlace (desk.ask m answer) := by
  intro fault hfails
  cases hmove : m desk.memory ⟨desk.position, {}⟩ with
  | ok found standing =>
    rw [ask_of_ok hmove] at hfails
    cases hfails
  | error fault' standing =>
    rw [ask_of_error hmove]
    exact h hmove

theorem inPlace_giveOut (h : Steady gives) (name : Option String) :
    desk.InPlace (desk.giveOut name gives) := by
  intro fault hfails
  cases hmove : gives desk.memory ⟨desk.position, {}⟩ with
  | ok found standing =>
    obtain ⟨held, reply, hgives⟩ := giveOut_of_ok hmove name
    rw [hgives] at hfails
    cases hfails
  | error fault' standing =>
    rw [giveOut_of_error hmove]
    exact h hmove

/-- One case for each command that is neither a run nor about floating-point numbers. -/
theorem inPlace_obey (hrun : command.run? = none) (hfloat : command.floatWidth? = none) :
    desk.InPlace (desk.obey command) := by
  cases command with
  | advance | uncheckedAdvance | advanceBy distance | uncheckedAdvanceBy distance | uncheckedPop =>
    exact inPlace_ask (Move.steady_consume _) _
  | peek | peek2 | peek3 | position | count | isEmpty | describe =>
    exact inPlace_ask (Move.steady_look _) _
  | advanceWhile test | readWhile test name => cases hrun
  | pop => exact inPlace_ask steady_pop _
  | popElement value =>
    cases hvalue : value.number? with
    | some n =>
      simp only [obey, hvalue]
      exact inPlace_ask (steady_popElement _) _
    | none =>
      simp only [obey, hvalue]
      exact inPlace_ask (Move.steady_look _) _
  | popWhere test => exact inPlace_ask (steady_popWhere _) _
  | close | duplicate => exact fun _ _ => rfl
  | span name => exact (spares_keep name .whole).inPlace
  | remainder name => exact inPlace_giveOut ((Move.steady_look _).map _) name
  | read count name => exact inPlace_giveOut (steady_read count) name
  | items name | isReadOnly name | write name index value => exact (spares_inspect name _).inPlace
  | drop name => exact (spares_drop name).inPlace
  | poke index value => exact (spares_change fun _ => spares_poke).inPlace
  | grow value => exact (spares_change fun _ => spares_grow).inPlace
  | view width => exact inPlace_giveOut ((steady_view width).map _) none
  | take width => exact inPlace_ask (steady_take width) _
  | readAscii width => exact inPlace_ask (steady_readAscii width) _
  | uint width => exact inPlace_ask (steady_uint width) _
  | sint width => exact inPlace_ask (steady_sint width) _
  | f32 | f64 => cases hfloat

/-- A command that is refused, which leaves the cursor where it is. -/
def Refused (desk : Desk) (outcome : Desk × Except Fault Answer) : Prop :=
  outcome.1.position = desk.position ∧ ∃ fault, outcome.2 = .error fault ∧ fault.kind = .value

/-- A command is refused when its move is. -/
theorem refused_ask (h : Refuses desk.memory m) (answer : α → Answer) :
    desk.Refused (desk.ask m answer) := by
  obtain ⟨fault, hmove, hkind⟩ := h ⟨desk.position, {}⟩
  rw [ask_of_error hmove]
  exact ⟨rfl, fault, rfl, hkind⟩

theorem refused_giveOut (h : Refuses desk.memory gives) (name : Option String) :
    desk.Refused (desk.giveOut name gives) := by
  obtain ⟨fault, hmove, hkind⟩ := h ⟨desk.position, {}⟩
  rw [giveOut_of_error hmove]
  exact ⟨rfl, fault, rfl, hkind⟩

section Closed

variable (hclosed : desk.isOpen = false)

include hclosed

/-- Every command that needs the memory is refused once the cursor has been closed. -/
theorem refused_obey (hneeds : command.NeedsMemory) : desk.Refused (desk.obey command) := by
  have hspan : desk.memory.isOpen = false := hclosed
  cases command with
  | position | close | duplicate | items | isReadOnly | write | drop | poke | grow => cases hneeds
  | advance | uncheckedAdvance | advanceBy distance | uncheckedAdvanceBy distance | uncheckedPop =>
    exact refused_ask (refuses_consume fun _ => length_bind_of_closed hspan _) _
  | peek | peek2 | peek3 | count | isEmpty | describe =>
    exact refused_ask (refuses_look fun _ => length_bind_of_closed hspan _) _
  | advanceWhile test => exact refused_ask (refuses_advanceWhile hspan _) _
  | pop => exact refused_ask (refuses_pop hspan) _
  | popElement value =>
    cases hvalue : value.number? with
    | some n =>
      simp only [obey, hvalue]
      exact refused_ask (refuses_popElement hspan _) _
    | none =>
      simp only [obey, hvalue]
      exact refused_ask (refuses_look fun _ => length_bind_of_closed hspan _) _
  | popWhere test => exact refused_ask (refuses_popWhere hspan _) _
  | span name =>
    have hwindow : desk.windowOf .whole = .error .released := by
      rw [windowOf, if_neg (by simp [hclosed])]
    refine ⟨(spares_keep name .whole).position, .released, ?_, rfl⟩
    rw [obey, hwindow]
    rfl
  | remainder name =>
    exact refused_giveOut ((refuses_look fun _ => length_bind_of_closed hspan _).map _) name
  | read count name => exact refused_giveOut (refuses_read hspan count) name
  | readWhile test name => exact refused_giveOut ((refuses_readWhile hspan _).map _) name
  | view width => exact refused_giveOut ((refuses_view hspan width).map _) none
  | take width => exact refused_ask (refuses_take hspan width) _
  | readAscii width => exact refused_ask ((refuses_take hspan width).bind _) _
  | uint width => exact refused_ask ((refuses_take hspan width).bind _) _
  | sint width => exact refused_ask ((refuses_take hspan width).bind _) _
  | f32 => exact refused_ask ((refuses_takeExact hspan 4).bind _) _
  | f64 => exact refused_ask ((refuses_takeExact hspan 8).bind _) _

/-- Also what needs no memory leaves the cursor where it is. -/
theorem position_obey_of_closed (command : Command) :
    (desk.obey command).1.position = desk.position := by
  by_cases hneeds : command.NeedsMemory
  · exact (refused_obey hclosed hneeds).1
  cases command with
  | position | close | duplicate => rfl
  | items name | isReadOnly name | write name index value => exact (spares_inspect name _).position
  | drop name => exact (spares_drop name).position
  | poke index value => exact (spares_change fun _ => spares_poke).position
  | grow value => exact (spares_change fun _ => spares_grow).position
  | _ => exact absurd trivial hneeds

end Closed

/-- What a move leaves: the cursor stands where the move has ended, and something more may be
held. -/
def After (desk : Desk) (m : Move (Span Cell) Memory α) (desk' : Desk) : Prop :=
  ∃ held, desk' = { desk with
    position := (Move.outcome (m desk.memory ⟨desk.position, {}⟩)).2.position, held }

theorem after_ask (m : Move (Span Cell) Memory α) (answer : α → Answer) :
    desk.After m (desk.ask m answer).1 := by
  refine ⟨desk.held, ?_⟩
  cases hmove : m desk.memory ⟨desk.position, {}⟩ with
  | ok found standing => rw [ask_of_ok hmove, Move.outcome]
  | error fault standing => rw [ask_of_error hmove, Move.outcome]

theorem after_giveOut (gives : Move (Span Cell) Memory (Option Window)) (name : Option String) :
    desk.After gives (desk.giveOut name gives).1 := by
  cases hmove : gives desk.memory ⟨desk.position, {}⟩ with
  | ok found standing =>
    obtain ⟨held, reply, hgives⟩ := giveOut_of_ok hmove name
    refine ⟨held, ?_⟩
    rw [hgives, hmove, Move.outcome]
  | error fault standing =>
    refine ⟨desk.held, ?_⟩
    rw [giveOut_of_error hmove, hmove, Move.outcome]

/-- What a command can do to the session. -/
inductive Effect (desk : Desk) : Desk → Prop where
  | move {α : Type} {m : Move (Span Cell) Memory α} (hstays : StaysInside m) {desk' : Desk}
      (hafter : desk.After m desk') : Effect desk desk'
  | spares {desk' : Desk} (hspares : desk.Spares desk') : Effect desk desk'
  | close : Effect desk { desk with isOpen := false }

theorem effect_ask (hstays : StaysInside m) (answer : α → Answer) :
    desk.Effect (desk.ask m answer).1 := .move hstays (after_ask m answer)

theorem effect_giveOut (hstays : StaysInside gives) (name : Option String) :
    desk.Effect (desk.giveOut name gives).1 := .move hstays (after_giveOut gives name)

/-- A command makes a move that stays inside, or spares the cursor, or closes it. -/
theorem effect_obey (command : Command) : desk.Effect (desk.obey command).1 := by
  cases command with
  | advance => exact effect_ask (fun _ _ hk _ => lands_advance hk trivial) _
  | uncheckedAdvance => exact effect_ask (fun _ _ hk _ => lands_uncheckedAdvance hk trivial) _
  | advanceBy distance => exact effect_ask (fun _ _ hk _ => lands_advanceBy hk distance trivial) _
  | uncheckedAdvanceBy distance =>
    exact effect_ask (fun _ _ hk _ => lands_uncheckedAdvanceBy hk distance trivial) _
  | advanceWhile test =>
    exact effect_ask (fun _ _ hk _ => lands_advanceWhile hk _ fun _ _ => trivial) _
  | peek | peek2 | peek3 | position | count | isEmpty | describe =>
    exact effect_ask (staysInside_look _) _
  | pop => exact effect_ask (fun _ _ hk _ => lands_pop hk) _
  | uncheckedPop => exact effect_ask (fun _ _ hk _ => lands_uncheckedPop hk trivial) _
  | popElement value =>
    cases hvalue : value.number? with
    | some n =>
      simp only [obey, hvalue]
      exact effect_ask (fun _ _ hk _ => lands_popElement hk _) _
    | none =>
      simp only [obey, hvalue]
      exact effect_ask (staysInside_look _) _
  | popWhere test => exact effect_ask (fun _ _ hk _ => lands_popWhere hk _ fun _ _ => trivial) _
  | close => exact .close
  | duplicate => exact .spares .rfl
  | span name => exact .spares (spares_keep name .whole)
  | remainder name => exact effect_giveOut ((staysInside_look _).map _) name
  | read count name =>
    exact effect_giveOut (fun _ _ hk _ => lands_read hk count fun _ => trivial) name
  | readWhile test name =>
    have hrun : StaysInside (readWhile (onCells test)) :=
      fun _ _ hk _ => lands_readWhile hk _ fun _ _ => trivial
    exact effect_giveOut (hrun.map _) name
  | items name | isReadOnly name | write name index value => exact .spares (spares_inspect name _)
  | drop name => exact .spares (spares_drop name)
  | poke index value => exact .spares (spares_change fun _ => spares_poke)
  | grow value => exact .spares (spares_change fun _ => spares_grow)
  | view width => exact effect_giveOut ((staysInside_view width).map _) none
  | take width => exact effect_ask (staysInside_take width) _
  | readAscii width => exact effect_ask (staysInside_readAscii width) _
  | uint width => exact effect_ask (staysInside_uint width) _
  | sint width => exact effect_ask (staysInside_sint width) _
  | f32 => exact effect_ask staysInside_f32 _
  | f64 => exact effect_ask staysInside_f64 _

/-- While it is open, the cursor stands in the memory. -/
def Ready (desk : Desk) : Prop :=
  desk.isOpen = true → 0 ≤ desk.position ∧ desk.position ≤ desk.items.size

/-- The memory of an open cursor is the span of its cells. -/
theorem memory_eq_ofList (hopen : desk.isOpen = true) :
    desk.memory = ofList desk.items.toList := by
  have hspan : desk.memory.isOpen = true := hopen
  exact (ofList_toList hspan).symm

/-- An open cursor stands at one of the elements, or at their end. -/
theorem Ready.exists_place (h : desk.Ready) (hopen : desk.isOpen = true) :
    ∃ k : Nat, desk.position = k ∧ k ≤ desk.items.toList.length := by
  obtain ⟨hstart, hsize⟩ := h hopen
  obtain ⟨k, hk⟩ := Int.eq_ofNat_of_zero_le hstart
  exact ⟨k, hk, by rw [Array.length_toList]; omega⟩

/-- No command makes the memory another owner's, or its items numbers of another format. -/
theorem format_obey (command : Command) :
    (desk.obey command).1.owner = desk.owner ∧ (desk.obey command).1.format = desk.format := by
  have heffect : desk.Effect (desk.obey command).1 := effect_obey command
  generalize (desk.obey command).1 = desk' at heffect ⊢
  cases heffect with
  | move hstays hafter =>
    obtain ⟨held, rfl⟩ := hafter
    exact ⟨rfl, rfl⟩
  | spares hspares => exact ⟨hspares.owner, hspares.format⟩
  | close => exact ⟨rfl, rfl⟩

/-- No command takes an open cursor out of the memory. -/
theorem ready_obey (h : desk.Ready) (command : Command) : (desk.obey command).1.Ready := by
  have heffect : desk.Effect (desk.obey command).1 := effect_obey command
  generalize (desk.obey command).1 = desk' at heffect ⊢
  cases heffect with
  | move hstays hafter =>
    obtain ⟨held, rfl⟩ := hafter
    intro hopen
    have hwas : desk.isOpen = true := hopen
    obtain ⟨k, hk, hle⟩ := h.exists_place hwas
    have hlands := hstays hle {}
    rw [← memory_eq_ofList hwas, ← hk, Array.length_toList] at hlands
    exact hlands.inside
  | spares hspares =>
    intro hopen
    have hwas : desk.isOpen = true := hspares.isOpen ▸ hopen
    rw [hspares.position, hspares.size hwas]
    exact h hwas
  | close => rintro ⟨⟩

/-- A closed cursor stays closed. -/
theorem isOpen_obey_of_closed (hclosed : desk.isOpen = false) (command : Command) :
    (desk.obey command).1.isOpen = false := by
  have heffect : desk.Effect (desk.obey command).1 := effect_obey command
  generalize (desk.obey command).1 = desk' at heffect ⊢
  cases heffect with
  | move hstays hafter =>
    obtain ⟨held, rfl⟩ := hafter
    exact hclosed
  | spares hspares => exact hspares.isOpen.trans hclosed
  | close => rfl

/-- Wherever a run of commands begins, it leaves the cursor in the memory. -/
theorem ready_after (h : desk.Ready) (commands : List Command) : (desk.after commands).Ready := by
  induction commands generalizing desk with
  | nil => exact h
  | cons command others ih => exact ih (ready_obey h command)

/-- A cursor that has been closed stays so, and stays where it is. -/
theorem after_of_closed (hclosed : desk.isOpen = false) (commands : List Command) :
    (desk.after commands).isOpen = false ∧ (desk.after commands).position = desk.position := by
  induction commands generalizing desk with
  | nil => exact ⟨hclosed, rfl⟩
  | cons command others ih =>
    obtain ⟨hstays, hposition⟩ := ih (isOpen_obey_of_closed hclosed command)
    exact ⟨hstays, hposition.trans (position_obey_of_closed hclosed command)⟩

theorem after_append (commands others : List Command) :
    desk.after (commands ++ others) = (desk.after commands).after others :=
  List.foldl_append

theorem isOpen_of_checkPosition (h : desk.memory.checkPosition desk.position = .ok ()) :
    desk.isOpen = true := by
  by_cases hopen : desk.isOpen = true
  · exact hopen
  · have hlength : desk.memory.length = .error .released := if_neg hopen
    rw [checkPosition, hlength] at h
    cases h

/-- A cursor that can be made at a position stands in the memory. -/
theorem ready_of_checkPosition (h : desk.memory.checkPosition desk.position = .ok ()) :
    desk.Ready := by
  intro hopen
  rw [checkPosition, memory_eq_ofList hopen, length_ofList] at h
  simp only [bind, Except.bind, Array.length_toList] at h
  split at h
  · assumption
  · cases h

/-- A run that fails stops at the element whose test has failed. -/
theorem run_obey_of_open {test : Test Memory Value} {fault : Fault} (h : desk.Ready)
    (hopen : desk.isOpen = true) (hrun : command.run? = some test)
    (hfails : (desk.obey command).2 = .error fault) :
    ∃ count, FailsAfter (onCells test) fault (desk.items.toList.drop desk.position.toNat) {} count ∧
      (desk.obey command).1.position = desk.position + count := by
  obtain ⟨k, hk, hle⟩ := h.exists_place hopen
  rw [hk, Int.toNat_natCast]
  cases command with
  | advanceWhile test' =>
    obtain rfl : test' = test := Option.some.inj hrun
    cases hmove : advanceWhile (onCells test') desk.memory ⟨desk.position, {}⟩ with
    | ok found standing =>
      rw [obey, ask_of_ok hmove] at hfails
      cases hfails
    | error fault' standing =>
      rw [obey, ask_of_error hmove] at hfails ⊢
      cases hfails
      rw [memory_eq_ofList hopen, hk] at hmove
      exact failsAfter_of_advanceWhile hle hmove
  | readWhile test' name =>
    obtain rfl : test' = test := Option.some.inj hrun
    cases hmove : (some <$> readWhile (onCells test') : Move (Span Cell) Memory (Option Window))
        desk.memory ⟨desk.position, {}⟩ with
    | ok found standing =>
      obtain ⟨held, reply, hgives⟩ := giveOut_of_ok hmove name
      rw [obey, hgives] at hfails
      cases hfails
    | error fault' standing =>
      rw [obey, giveOut_of_error hmove] at hfails ⊢
      cases hfails
      rw [memory_eq_ofList hopen, hk] at hmove
      exact failsAfter_of_readWhile hle (Move.map_eq_error.1 hmove)
  | _ => cases hrun

/-- A command that fails leaves the cursor where it is, except that a run stops at the element whose
test has failed. Once the cursor is closed it stays where it is, and what needs the memory is
refused. -/
theorem failures_keep_position (hstart : desk.memory.checkPosition desk.position = .ok ()) :
    (∀ (commands : List Command) (command : Command) (fault : Fault),
      let now := desk.after commands
      (now.obey command).2 = .error fault → command.floatWidth? = none →
        (command.run? = none ∨ now.isOpen = false →
          (now.obey command).1.position = now.position) ∧
        (∀ test, command.run? = some test → now.isOpen = true →
          ∃ count, FailsAfter (onCells test) fault
              (now.items.toList.drop now.position.toNat) {} count ∧
            (now.obey command).1.position = now.position + count)) ∧
    ∀ before later : List Command,
      let now := desk.after (before ++ .close :: later)
      now.position = (desk.after before).position ∧
        ∀ command : Command, command.NeedsMemory →
          ∃ fault, (now.obey command).2 = .error fault ∧ fault.kind = .value := by
  have hready : desk.Ready := ready_of_checkPosition hstart
  constructor
  · intro commands command fault now hfails hfloat
    refine ⟨?_, fun test hrun hopen => ?_⟩
    · rintro (hrun | hclosed)
      · exact inPlace_obey hrun hfloat fault hfails
      · exact position_obey_of_closed hclosed command
    · exact run_obey_of_open (ready_after hready commands) hopen hrun hfails
  · intro before later now
    obtain ⟨hclosed, hposition⟩ : now.isOpen = false ∧
        now.position = (desk.after before).position := by
      have hclose : now = ((desk.after before).obey .close).1.after later :=
        after_append before (.close :: later)
      rw [hclose]
      exact after_of_closed rfl later
    exact ⟨hposition, fun command hneeds => (refused_obey hclosed hneeds).2⟩

/-- Three bytes, with the cursor at the second one. -/
def threeBytes : Desk where
  owner := .bytes
  format := Cell.byteFormat
  items := #[.ofByte 5, .ofByte 6, .ofByte 7]
  position := 1

/-- A run whose test fails when it is asked a second time. -/
def tiring : Command := .advanceWhile (Session.Judgement.failAfter 1).test

/-- A run fails, and later on the cursor is closed. -/
theorem failures_keep_position_threeBytes :
    threeBytes.memory.checkPosition threeBytes.position = .ok () ∧
      (threeBytes.obey tiring).2 = .error .raised ∧
      (∃ count, FailsAfter (onCells (Session.Judgement.failAfter 1).test) .raised
          (threeBytes.items.toList.drop 1) {} count ∧
        (threeBytes.obey tiring).1.position = 1 + count) ∧
      (threeBytes.after [tiring, .close, .peek]).position = (threeBytes.after [tiring]).position ∧
      ∃ fault, ((threeBytes.after [tiring, .close, .peek]).obey .count).2 = .error fault ∧
        fault.kind = .value := by
  have hstart : threeBytes.memory.checkPosition threeBytes.position = .ok () := rfl
  have hmove : advanceWhile (onCells (Session.Judgement.failAfter 1).test) threeBytes.memory
      ⟨threeBytes.position, {}⟩ = .error .raised ⟨2, { asked := 2 }⟩ :=
    (advanceWhile_eq (show 1 ≤ threeBytes.items.toList.length by decide) _).trans rfl
  have hfails : (threeBytes.obey tiring).2 = .error .raised := by
    rw [tiring, obey, ask_of_error hmove]
  obtain ⟨hrun, hclosed⟩ := failures_keep_position hstart
  obtain ⟨hposition, hrefused⟩ := hclosed [tiring] [.peek]
  exact ⟨hstart, hfails, (hrun [] tiring .raised hfails rfl).2 _ rfl rfl, hposition,
    hrefused .count trivial⟩

end Desk

end Scanning.Span
