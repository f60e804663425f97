import Scanning.Proofs.Span.Desk

namespace Scanning.Span

open Session (Memory)

/-- What happens in a session: a command is obeyed, or the owner puts other elements in place of
those in memory, be they as many or not. -/
inductive Turn where
  | command (command : Command)
  | replace (items : Array Cell)

/-- Commands of the owner, who alone writes to the memory. -/
def Command.IsOwners : Command → Prop
  | poke _ _ | grow _ => True
  | _ => False

/-- The name that a turn lets go of on request. -/
def Turn.dropped? : Turn → Option String
  | .command (.drop name) => some name
  | _ => none

namespace Desk

/-- The owner puts other elements in place of those in memory. Their number changes only if nobody
relies on it. -/
def replace (desk : Desk) (items : Array Cell) : Except Fault Desk :=
  if desk.isHeld ∧ items.size ≠ desk.items.size then
    throw (if desk.owner = .array then .resizeHeldArray else .resizeHeldBytes)
  else return { desk with items }

/-- Another number of elements is refused while somebody relies on the size of the memory. -/
theorem replace_of_held {desk : Desk} {items : Array Cell} (hheld : desk.isHeld = true)
    (hsize : items.size ≠ desk.items.size) :
    ∃ fault, desk.replace items = .error fault ∧ fault.kind = .buffer := by
  rw [replace, if_pos ⟨hheld, hsize⟩]
  refine ⟨_, rfl, ?_⟩
  split <;> rfl

theorem replace_of_free {desk : Desk} (hfree : desk.isHeld = false) (items : Array Cell) :
    desk.replace items = .ok { desk with items } := by
  rw [replace, if_neg]
  · rfl
  · rintro ⟨hheld, -⟩
    exact Bool.false_ne_true (hfree.symm.trans hheld)

/-- Fixed bytes accept no cell. -/
theorem owner_ne_bytes {desk : Desk} {value : Int} {cell : Cell} (h : desk.cellOf value = .ok cell) :
    desk.owner ≠ .bytes := by
  intro howner
  rw [cellOf, howner] at h
  cases h

/-- To append is to replace all elements by one more. -/
theorem grow_eq_replace {desk : Desk} {value : Int} {cell : Cell}
    (h : desk.cellOf value = .ok cell) :
    desk.grow value = desk.replace (desk.items.push cell) := by
  have hsize : (desk.items.push cell).size ≠ desk.items.size := by
    rw [Array.size_push]
    exact Nat.succ_ne_self _
  rw [grow, if_neg (owner_ne_bytes h), h, replace]
  cases hheld : desk.isHeld with
  | false => rfl
  | true =>
    rw [if_pos (c := true = true ∧ _) ⟨rfl, hsize⟩]
    rfl

/-- What is done in a turn, and the answer. -/
def turn (desk : Desk) : Turn → Desk × Except Fault Answer
  | .command command => desk.obey command
  | .replace items => desk.change (desk.replace items)

/-- The window of the elements that a command takes, from where the cursor stood to where it stands
then. There is none unless the command answers with elements. -/
def taken? (desk : Desk) : Desk × Except Fault Answer → Option Window
  | (later, .ok (.cells _)) => some ⟨desk.position.toNat, later.position.toNat⟩
  | _ => none

/-- What a turn hands out under a name. -/
def handsOut? (desk : Desk) : Turn → Option (String × Held)
  | .command (.span (some name)) => some (name, .whole)
  | .command (.remainder (some name)) =>
    if desk.isOpen then some (name, .window ⟨desk.position.toNat, desk.items.size⟩) else none
  | .command (.read count (some name)) =>
    (desk.taken? (desk.obey (.read count (some name)))).map fun window => (name, .window window)
  | .command (.readWhile test (some name)) =>
    (desk.taken? (desk.obey (.readWhile test (some name)))).map fun window =>
      (name, .window window)
  | _ => none

/-- A turn lets go of what a name holds: it drops it, or hands out something else under the name. -/
def LetsGo (desk : Desk) (turn : Turn) (name : String) : Prop :=
  turn.dropped? = some name ∨ ∃ held, desk.handsOut? turn = some (name, held)

variable {desk : Desk} {gives : Move (Span Cell) Memory (Option Window)} {window : Window}
  {standing : Standing Memory}

/-- A window that lies in the memory. -/
def Fits (desk : Desk) (window : Window) : Prop :=
  window.start ≤ window.stop ∧ window.stop ≤ desk.items.size

/-- An open cursor gives out a window over the elements that it goes past. -/
def GivesPassed (desk : Desk) (gives : Move (Span Cell) Memory (Option Window)) : Prop :=
  ∀ ⦃window standing⦄, gives desk.memory ⟨desk.position, {}⟩ = .ok (some window) standing →
    window = ⟨desk.position.toNat, standing.position.toNat⟩ ∧ desk.isOpen = true ∧
      desk.Fits window

/-- A move that is refused gives out nothing. -/
theorem Refuses.givesPassed (h : Refuses desk.memory gives) : desk.GivesPassed gives := by
  intro window standing hgives
  obtain ⟨fault, hfails, -⟩ := h ⟨desk.position, {}⟩
  cases hfails.symm.trans hgives

/-- Reading some elements gives out the window over them. -/
theorem givesPassed_read (hready : desk.Ready) (count : Int) : desk.GivesPassed (read count) := by
  cases hopen : desk.isOpen with
  | false => exact Refuses.givesPassed (refuses_read hopen count)
  | true =>
    intro window standing hgives
    obtain ⟨k, hk, hle⟩ := hready.exists_place hopen
    rw [memory_eq_ofList hopen, hk] at hgives
    by_cases hcount : count < 0
    · rw [read_negative hcount] at hgives
      cases hgives
    obtain ⟨count, rfl⟩ : ∃ n : Nat, count = n := ⟨count.toNat, by omega⟩
    by_cases hroom : k + count ≤ desk.items.toList.length
    · rw [read_eq hroom] at hgives
      cases hgives
      rw [hk, Int.toNat_natCast, Int.toNat_natCast]
      exact ⟨rfl, hopen, Nat.le_add_right k count, hroom⟩
    · rw [read_short (by omega)] at hgives
      cases hgives

/-- Reading under a test gives out the window over the accepted elements. -/
theorem givesPassed_readWhile (hready : desk.Ready) (test : Test Memory Cell) :
    desk.GivesPassed (some <$> readWhile test) := by
  cases hopen : desk.isOpen with
  | false => exact Refuses.givesPassed ((refuses_readWhile hopen test).map some)
  | true =>
    intro window standing hgives
    obtain ⟨k, hk, hle⟩ := hready.exists_place hopen
    rw [memory_eq_ofList hopen, hk] at hgives
    obtain ⟨window', hread, hsome⟩ := Move.map_eq_ok.1 hgives
    obtain rfl : window' = window := Option.some.inj hsome
    have hcount := accepted_le test (desk.items.toList.drop k) {}
    rw [readWhile_eq hle] at hread
    split at hread
    · rename_i count memory haccepted
      cases hread
      rw [haccepted, List.length_drop] at hcount
      rw [Array.length_toList] at hle hcount
      have hstop : k + count ≤ desk.items.size := by omega
      rw [hk, Int.toNat_natCast, Int.toNat_natCast]
      exact ⟨rfl, hopen, Nat.le_add_right k count, hstop⟩
    · cases hread

theorem giveOut_of_some (h : gives desk.memory ⟨desk.position, {}⟩ = .ok (some window) standing)
    (name : Option String) :
    desk.giveOut name gives =
      ({ desk with position := standing.position }.keep name (.window window),
        .ok (.cells (desk.valuesIn window))) := by
  rw [giveOut, move, h]
  cases name <;> rfl

theorem giveOut_of_none (h : gives desk.memory ⟨desk.position, {}⟩ = .ok none standing)
    (name : Option String) :
    desk.giveOut name gives =
      ({ desk with position := standing.position }, .ok (.value .none)) := by
  rw [giveOut, move, h]

/-- What is held once something has been handed out. -/
def handing (held : List (String × Held)) : Option (String × Held) → List (String × Held)
  | some entry => entry :: held.filter (·.1 != entry.1)
  | none => held

/-- The memory is left as it is, and what is handed out is held. -/
structure Hands (desk desk' : Desk) (entry : Option (String × Held)) : Prop where
  items : desk'.items = desk.items
  held : desk'.held = handing desk.held entry

theorem hands_ask {α : Type} (m : Move (Span Cell) Memory α) (answer : α → Answer) :
    desk.Hands (desk.ask m answer).1 none := by
  cases hmove : m desk.memory ⟨desk.position, {}⟩ with
  | ok found standing =>
    rw [ask_of_ok hmove]
    exact ⟨rfl, rfl⟩
  | error fault standing =>
    rw [ask_of_error hmove]
    exact ⟨rfl, rfl⟩

theorem hands_giveOut_none (gives : Move (Span Cell) Memory (Option Window)) :
    desk.Hands (desk.giveOut none gives).1 none := by
  cases hgives : gives desk.memory ⟨desk.position, {}⟩ with
  | error fault standing =>
    rw [giveOut_of_error hgives]
    exact ⟨rfl, rfl⟩
  | ok found standing =>
    cases found with
    | none =>
      rw [giveOut_of_none hgives]
      exact ⟨rfl, rfl⟩
    | some window =>
      rw [giveOut_of_some hgives]
      exact ⟨rfl, rfl⟩

/-- What is given out under a name is held under it, in place of what the name has held. -/
theorem hands_giveOut_some (h : desk.GivesPassed gives) (name : String) :
    desk.Hands (desk.giveOut (some name) gives).1
      ((desk.taken? (desk.giveOut (some name) gives)).map fun window =>
        (name, .window window)) := by
  cases hgives : gives desk.memory ⟨desk.position, {}⟩ with
  | error fault standing =>
    rw [giveOut_of_error hgives]
    exact ⟨rfl, rfl⟩
  | ok found standing =>
    cases found with
    | none =>
      rw [giveOut_of_none hgives]
      exact ⟨rfl, rfl⟩
    | some window =>
      rw [giveOut_of_some hgives]
      obtain ⟨rfl, -⟩ := h hgives
      exact ⟨rfl, rfl⟩

/-- The remainder of an open cursor is handed out as the window from there to the end; nothing is
handed out of a closed one. -/
theorem hands_remainder (hready : desk.Ready) (name : String) :
    desk.Hands (desk.obey (.remainder (some name))).1
      (desk.handsOut? (.command (.remainder (some name)))) := by
  cases hopen : desk.isOpen with
  | false =>
    have hrefuses : Refuses desk.memory (some <$> remainder : Move _ Memory _) :=
      (refuses_look fun _ => length_bind_of_closed hopen _).map some
    obtain ⟨fault, hfails, -⟩ := hrefuses ⟨desk.position, {}⟩
    rw [obey, giveOut_of_error hfails, handsOut?, hopen]
    exact ⟨rfl, rfl⟩
  | true =>
    obtain ⟨k, hk, hle⟩ := hready.exists_place hopen
    have hgives : (some <$> remainder : Move (Span Cell) Memory (Option Window)) desk.memory
        ⟨desk.position, {}⟩ = .ok (some ⟨k, desk.items.size⟩) ⟨desk.position, {}⟩ := by
      rw [memory_eq_ofList hopen, hk, ← Array.length_toList]
      exact Move.map_eq_ok.2 ⟨_, remainder_eq hle, rfl⟩
    rw [obey, giveOut_of_some hgives, handsOut?, if_pos hopen, hk, Int.toNat_natCast]
    exact ⟨rfl, rfl⟩

/-- One case for each command that is neither the owner's nor lets something go by name. -/
theorem hands_obey (hready : desk.Ready) {command : Command} (howner : ¬ command.IsOwners)
    (hdrop : (Turn.command command).dropped? = none) :
    desk.Hands (desk.obey command).1 (desk.handsOut? (.command command)) := by
  cases command with
  | advance | uncheckedAdvance | advanceBy | uncheckedAdvanceBy | advanceWhile | peek | peek2
  | peek3 | pop | uncheckedPop | popWhere | position | count | isEmpty | describe | take | readAscii
  | uint | sint | f32 | f64 => exact hands_ask _ _
  | popElement value =>
    cases hvalue : value.number? with
    | some n =>
      simp only [obey, hvalue]
      exact hands_ask _ _
    | none =>
      simp only [obey, hvalue]
      exact hands_ask _ _
  | close | duplicate => exact ⟨rfl, rfl⟩
  | span name => cases name <;> exact ⟨rfl, rfl⟩
  | remainder name =>
    cases name with
    | none => exact hands_giveOut_none _
    | some name => exact hands_remainder hready name
  | read count name =>
    cases name with
    | none => exact hands_giveOut_none _
    | some name => exact hands_giveOut_some (givesPassed_read hready count) name
  | readWhile test name =>
    cases name with
    | none => exact hands_giveOut_none _
    | some name => exact hands_giveOut_some (givesPassed_readWhile hready _) name
  | view width => exact hands_giveOut_none _
  | items name | isReadOnly name | write name index value =>
    simp only [obey, inspect]
    split <;> exact ⟨rfl, rfl⟩
  | drop name => cases hdrop
  | poke | grow => exact absurd trivial howner

/-- What a turn leaves. -/
inductive Leaves (desk : Desk) (turn : Turn) : Desk → Prop where
  | hands {desk' : Desk} (hdrop : turn.dropped? = none)
      (h : desk.Hands desk' (desk.handsOut? turn)) : Leaves desk turn desk'
  | drops {name : String} (hdrop : turn.dropped? = some name) :
      Leaves desk turn { desk with held := desk.held.filter (·.1 != name) }
  /-- The owner writes, and other elements stand in memory. -/
  | writes {items : Array Cell} (hdrop : turn.dropped? = none)
      (hnone : desk.handsOut? turn = none)
      (hsize : desk.isHeld = true → items.size = desk.items.size) :
      Leaves desk turn { desk with items }

theorem leaves_drop (name : String) :
    desk.Leaves (.command (.drop name)) (desk.obey (.drop name)).1 := by
  have hleaves : desk.Leaves (.command (.drop name)) _ := .drops rfl
  rw [obey]
  cases hfound : desk.find? name with
  | some held => exact hleaves
  | none =>
    have hnone : desk.held.filter (·.1 != name) = desk.held := by
      rw [List.filter_eq_self]
      intro entry hentry
      rw [bne_comm]
      exact List.lookup_eq_none_iff.1 hfound entry hentry
    rw [hnone] at hleaves
    exact hleaves

/-- A change by the owner writes to the memory, or leaves it when it is refused. -/
theorem leaves_change {changed : Except Fault Desk} {turn : Turn}
    (hdrop : turn.dropped? = none) (hnone : desk.handsOut? turn = none)
    (h : ∀ desk', changed = .ok desk' → ∃ items, desk' = { desk with items } ∧
      (desk.isHeld = true → items.size = desk.items.size)) :
    desk.Leaves turn (desk.change changed).1 := by
  cases changed with
  | error fault => exact .writes hdrop hnone fun _ => rfl
  | ok desk' =>
    obtain ⟨items, rfl, hsize⟩ := h desk' rfl
    exact .writes hdrop hnone hsize

/-- Every turn hands something out, drops a name, or writes to the memory without changing its size
while somebody relies on it. -/
theorem leaves_turn (hready : desk.Ready) (turn : Turn) :
    desk.Leaves turn (desk.turn turn).1 := by
  cases turn with
  | replace items =>
    refine leaves_change rfl rfl fun desk' hreplace => ?_
    rw [replace] at hreplace
    split at hreplace
    · cases hreplace
    · rename_i hkeeps
      cases hreplace
      exact ⟨items, rfl, Decidable.not_and_not_right.1 hkeeps⟩
  | command command =>
    cases command with
    | drop name => exact leaves_drop name
    | poke index value =>
      refine leaves_change rfl rfl fun desk' hpoke => ?_
      obtain ⟨place, cell, -, hdesk⟩ := exists_of_poke hpoke
      exact ⟨_, hdesk, fun _ => Array.size_setIfInBounds⟩
    | grow value =>
      refine leaves_change rfl rfl fun desk' hgrow => ?_
      obtain ⟨cell, -, hfree, hdesk⟩ := exists_of_grow hgrow
      exact ⟨_, hdesk, fun hheld => absurd hheld (Bool.eq_false_iff.1 hfree)⟩
    | _ => exact .hands rfl (hands_obey hready id rfl)

theorem lookup_filter_ne {held : List (String × Held)} {name other : String} (h : other ≠ name) :
    (held.filter (·.1 != name)).lookup other = held.lookup other := by
  induction held with
  | nil => rfl
  | cons entry rest ih =>
    obtain ⟨key, value⟩ := entry
    rw [List.filter_cons, List.lookup_cons]
    by_cases hkey : key = name
    · have hother : (other == key) = false := beq_eq_false_iff_ne.2 (hkey ▸ h)
      rw [if_neg (by simp [hkey]), ih, hother]
    · rw [if_pos (by simp [hkey]), List.lookup_cons, ih]

theorem lookup_filter_self (held : List (String × Held)) (name : String) :
    (held.filter (·.1 != name)).lookup name = none := by
  rw [List.lookup_eq_none_iff]
  intro entry hentry
  rw [bne_comm]
  exact (List.mem_filter.1 hentry).2

section LetsGo

variable {turn : Turn} {name other : String} {held : Held}

theorem handsOut?_of_dropped (h : turn.dropped? = some name) : desk.handsOut? turn = none := by
  cases turn with
  | replace items => cases h
  | command command =>
    cases command with
    | drop => rfl
    | _ => cases h

/-- Dropping a name lets go of this name alone. -/
theorem letsGo_of_dropped (h : turn.dropped? = some name) :
    desk.LetsGo turn other ↔ other = name := by
  simp [LetsGo, h, handsOut?_of_dropped h, eq_comm]

/-- Handing something out lets go of its name alone. -/
theorem letsGo_of_handsOut (hdrop : turn.dropped? = none)
    (h : desk.handsOut? turn = some (name, held)) : desk.LetsGo turn other ↔ other = name := by
  simp [LetsGo, h, hdrop, eq_comm]

/-- A turn that neither drops a name nor hands something out lets go of none. -/
theorem not_letsGo (hdrop : turn.dropped? = none) (hnone : desk.handsOut? turn = none) :
    ¬ desk.LetsGo turn other := by
  simp [LetsGo, hdrop, hnone]

end LetsGo

/-- What a name holds after a turn is what the turn hands out under it, or else what it held before
and has not been let go of. -/
theorem find?_turn (hready : desk.Ready) (turn : Turn) (name : String) (held : Held) :
    (desk.turn turn).1.find? name = some held ↔
      desk.handsOut? turn = some (name, held) ∨
        desk.find? name = some held ∧ ¬ desk.LetsGo turn name := by
  have hleaves : desk.Leaves turn (desk.turn turn).1 := leaves_turn hready turn
  generalize (desk.turn turn).1 = desk' at hleaves
  cases hleaves with
  | writes hdrop hnone hsize => simp [hnone, find?, not_letsGo hdrop hnone]
  | @drops dropped hdrop =>
    rw [handsOut?_of_dropped hdrop, letsGo_of_dropped hdrop, find?]
    by_cases hname : name = dropped
    · simp [hname, lookup_filter_self]
    · simp [hname, lookup_filter_ne hname, find?]
  | hands hdrop hhands =>
    rw [find?, hhands.held]
    cases hentry : desk.handsOut? turn with
    | none => simp [handing, find?, not_letsGo hdrop hentry]
    | some entry =>
      obtain ⟨key, value⟩ := entry
      rw [letsGo_of_handsOut hdrop hentry, handing, List.lookup_cons]
      by_cases hname : name = key
      · simp [hname]
      · simp [beq_eq_false_iff_ne.2 hname, lookup_filter_ne hname, find?, hname, Ne.symm hname]

end Desk

end Scanning.Span
