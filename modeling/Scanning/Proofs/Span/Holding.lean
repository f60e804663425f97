import Mathlib.Data.List.Induction
import Scanning.Proofs.Span.Lending

namespace Scanning.Span

open Session (Memory)

namespace Desk

/-- The session after these turns. A turn that fails does not end it. -/
def afterTurns (desk : Desk) (turns : List Turn) : Desk :=
  turns.foldl (fun desk turn => (desk.turn turn).1) desk

/-- The last of some turns starts from what the others have left. -/
theorem afterTurns_concat (desk : Desk) (turns : List Turn) (turn : Turn) :
    desk.afterTurns (turns ++ [turn]) = ((desk.afterTurns turns).turn turn).1 := by
  rw [afterTurns, List.foldl_append]
  rfl

/-- What has been handed out under a name in the course of these turns and not been let go of since. -/
inductive Holds (desk : Desk) : List Turn → String → Held → Prop where
  | handed {turns : List Turn} {turn : Turn} {name : String} {held : Held}
      (h : (desk.afterTurns turns).handsOut? turn = some (name, held)) :
      Holds desk (turns ++ [turn]) name held
  | still {turns : List Turn} {turn : Turn} {name : String} {held : Held}
      (h : Holds desk turns name held) (hkeeps : ¬ (desk.afterTurns turns).LetsGo turn name) :
      Holds desk (turns ++ [turn]) name held

variable {desk : Desk} {gives : Move (Span Cell) Memory (Option Window)} {window : Window}

/-- Nothing is held under a name that holds something else. -/
def Visible (held : List (String × Held)) : Prop :=
  ∀ entry ∈ held, held.lookup entry.1 = some entry.2

theorem Visible.filter {held : List (String × Held)} (h : Visible held) (name : String) :
    Visible (held.filter (·.1 != name)) := by
  intro entry hentry
  obtain ⟨hmem, hname⟩ := List.mem_filter.1 hentry
  rw [lookup_filter_ne (bne_iff_ne.1 hname)]
  exact h entry hmem

/-- What has been handed out, and what is held under other names, is visible. -/
theorem Visible.handing {held : List (String × Held)} (h : Visible held)
    (given? : Option (String × Held)) : Visible (handing held given?) := by
  cases given? with
  | none => exact h
  | some new =>
    intro entry hentry
    obtain rfl | hrest := List.mem_cons.1 hentry
    · exact List.lookup_cons_self
    · have hname : entry.1 ≠ new.1 := bne_iff_ne.1 (List.mem_filter.1 hrest).2
      rw [Desk.handing, List.lookup_cons, beq_eq_false_iff_ne.2 hname]
      exact h.filter new.1 entry hrest

/-- Somebody relies on the size of the memory exactly if the cursor is open or some name holds a
window. -/
theorem isHeld_iff (h : Visible desk.held) :
    desk.isHeld = true ↔
      desk.isOpen = true ∨ ∃ name window, desk.find? name = some (.window window) := by
  rw [isHeld, Bool.or_eq_true, List.any_eq_true]
  refine or_congr_right ⟨?_, ?_⟩
  · rintro ⟨⟨name, held⟩, hmem, hwindow⟩
    cases held with
    | whole => cases hwindow
    | window window => exact ⟨name, window, h _ hmem⟩
  · rintro ⟨name, window, hfound⟩
    obtain ⟨before, behind, hheld, -⟩ := List.lookup_eq_some_iff.1 hfound
    exact ⟨(name, .window window), hheld ▸ List.mem_append_right _ List.mem_cons_self, rfl⟩

/-- The windows that are held lie in the memory, and as long as somebody relies on the size of the
memory the cursor stands in it. -/
structure Sound (desk : Desk) : Prop where
  visible : Visible desk.held
  fits : ∀ name window, desk.find? name = some (.window window) → desk.Fits window
  inside : desk.isHeld = true → 0 ≤ desk.position ∧ desk.position ≤ desk.items.size

theorem Sound.ready (h : desk.Sound) : desk.Ready := fun hopen => h.inside (isHeld_of_isOpen hopen)

/-- A window that is taken has been given by an open cursor, and lies in the memory. -/
theorem fits_of_taken? (h : desk.GivesPassed gives) {name : String}
    (htaken : desk.taken? (desk.giveOut (some name) gives) = some window) :
    desk.isOpen = true ∧ desk.Fits window := by
  cases hgives : gives desk.memory ⟨desk.position, {}⟩ with
  | error fault standing =>
    rw [giveOut_of_error hgives] at htaken
    cases htaken
  | ok found standing =>
    cases found with
    | none =>
      rw [giveOut_of_none hgives] at htaken
      cases htaken
    | some window' =>
      rw [giveOut_of_some hgives] at htaken
      cases htaken
      obtain ⟨rfl, hopen, hfits⟩ := h hgives
      exact ⟨hopen, hfits⟩

/-- A window that is handed out lies in the memory, and the cursor is open. -/
theorem fits_of_handsOut (hready : desk.Ready) {turn : Turn} {name : String}
    (h : desk.handsOut? turn = some (name, .window window)) :
    desk.isOpen = true ∧ desk.Fits window := by
  unfold handsOut? at h
  split at h
  · cases h
  · split at h
    · rename_i hopen
      obtain ⟨k, hk, hle⟩ := hready.exists_place hopen
      cases h
      rw [hk, Int.toNat_natCast]
      exact ⟨hopen, hle, Nat.le_refl _⟩
    · cases h
  · rename_i count name'
    obtain ⟨window', htaken, hentry⟩ := Option.map_eq_some_iff.1 h
    cases hentry
    exact fits_of_taken? (givesPassed_read hready count) htaken
  · rename_i test name'
    obtain ⟨window', htaken, hentry⟩ := Option.map_eq_some_iff.1 h
    cases hentry
    exact fits_of_taken? (givesPassed_readWhile hready _) htaken
  · cases h

/-- Replacing what stands in memory touches nothing else. -/
theorem exists_turn_replace (desk : Desk) (items : Array Cell) :
    ∃ items', (desk.turn (.replace items)).1 = { desk with items := items' } := by
  rw [turn, replace]
  split
  · exact ⟨desk.items, rfl⟩
  · exact ⟨items, rfl⟩

/-- No turn opens a cursor again. -/
theorem isOpen_of_turn {turn : Turn} (h : (desk.turn turn).1.isOpen = true) :
    desk.isOpen = true := by
  cases turn with
  | replace items =>
    obtain ⟨items', hturn⟩ := exists_turn_replace desk items
    rw [hturn] at h
    exact h
  | command command =>
    by_cases hopen : desk.isOpen = true
    · exact hopen
    · have hclosed : (desk.obey command).1.isOpen = false :=
        isOpen_obey_of_closed (Bool.eq_false_iff.2 hopen) command
      exact absurd (hclosed.symm.trans h) Bool.false_ne_true

/-- No turn leads the cursor out of the memory. -/
theorem inside_turn (h : 0 ≤ desk.position ∧ desk.position ≤ desk.items.size) (turn : Turn) :
    0 ≤ (desk.turn turn).1.position ∧ (desk.turn turn).1.position ≤ desk.items.size := by
  cases turn with
  | replace items =>
    obtain ⟨items', hturn⟩ := exists_turn_replace desk items
    rw [hturn]
    exact h
  | command command =>
    have hready : desk.Ready := fun _ => h
    cases hopen : desk.isOpen with
    | false =>
      have hstays : (desk.obey command).1.position = desk.position :=
        position_obey_of_closed hopen command
      rw [turn, hstays]
      exact h
    | true =>
      have heffect : desk.Effect (desk.obey command).1 := effect_obey command
      rw [turn]
      generalize (desk.obey command).1 = desk' at heffect ⊢
      cases heffect with
      | move hstays hafter =>
        obtain ⟨held, rfl⟩ := hafter
        obtain ⟨k, hk, hle⟩ := hready.exists_place hopen
        have hlands := hstays hle {}
        rw [← memory_eq_ofList hopen, ← hk, Array.length_toList] at hlands
        exact hlands.inside
      | spares hspares =>
        rw [hspares.position]
        exact h
      | close => exact h

section Turn

variable {turn : Turn} (hsound : desk.Sound)

include hsound

/-- What is held stays visible in every turn. -/
theorem Sound.visible_turn (turn : Turn) : Visible (desk.turn turn).1.held := by
  have hleaves : desk.Leaves turn (desk.turn turn).1 := leaves_turn hsound.ready turn
  generalize (desk.turn turn).1 = desk' at hleaves
  cases hleaves with
  | writes => exact hsound.visible
  | drops => exact hsound.visible.filter _
  | hands hdrop hhands =>
    rw [hhands.held]
    exact hsound.visible.handing _

/-- Once nobody relies on the size of the memory, nobody will again. -/
theorem Sound.isHeld_of_turn (h : (desk.turn turn).1.isHeld = true) : desk.isHeld = true := by
  obtain hopen | ⟨name, window, hfound⟩ := (isHeld_iff (hsound.visible_turn turn)).1 h
  · exact isHeld_of_isOpen (isOpen_of_turn hopen)
  · obtain hhands | ⟨hbefore, -⟩ := (find?_turn hsound.ready turn name _).1 hfound
    · exact isHeld_of_isOpen (fits_of_handsOut hsound.ready hhands).1
    · exact (isHeld_iff hsound.visible).2 (.inr ⟨name, window, hbefore⟩)

/-- The memory keeps its size for as long as somebody relies on it. -/
theorem Sound.size_turn (h : desk.isHeld = true) (turn : Turn) :
    (desk.turn turn).1.items.size = desk.items.size := by
  have hleaves : desk.Leaves turn (desk.turn turn).1 := leaves_turn hsound.ready turn
  generalize (desk.turn turn).1 = desk' at hleaves
  cases hleaves with
  | writes hdrop hnone hsize => exact hsize h
  | drops => rfl
  | hands hdrop hhands => rw [hhands.items]

/-- What one turn preserves. -/
theorem Sound.turned (turn : Turn) : (desk.turn turn).1.Sound where
  visible := hsound.visible_turn turn
  fits name window hfound := by
    have hvisible : Visible (desk.turn turn).1.held := hsound.visible_turn turn
    have hheld := hsound.isHeld_of_turn ((isHeld_iff hvisible).2 (.inr ⟨name, window, hfound⟩))
    rw [Fits, hsound.size_turn hheld]
    obtain hhands | ⟨hbefore, -⟩ := (find?_turn hsound.ready turn name _).1 hfound
    · exact (fits_of_handsOut hsound.ready hhands).2
    · exact hsound.fits name window hbefore
  inside hheld := by
    have hbefore := hsound.isHeld_of_turn hheld
    rw [hsound.size_turn hbefore]
    exact inside_turn (hsound.inside hbefore) turn

/-- What all the turns preserve. -/
theorem Sound.afterTurns (turns : List Turn) : (desk.afterTurns turns).Sound := by
  induction turns generalizing desk with
  | nil => exact hsound
  | cons turn others ih => exact ih (hsound.turned turn)

end Turn

theorem not_holds_nil {name : String} {held : Held} : ¬ desk.Holds [] name held := by
  intro h
  generalize hall : ([] : List Turn) = turns at h
  cases h with
  | handed | still => exact List.append_ne_nil_of_right_ne_nil _ (List.cons_ne_nil _ _) hall.symm

/-- A name holds something after one more turn exactly if this turn has handed it out, or if the
name has held it before and the turn does not let go of it. -/
theorem holds_concat {turns : List Turn} {turn : Turn} {name : String} {held : Held} :
    desk.Holds (turns ++ [turn]) name held ↔
      (desk.afterTurns turns).handsOut? turn = some (name, held) ∨
        desk.Holds turns name held ∧ ¬ (desk.afterTurns turns).LetsGo turn name := by
  constructor
  · intro h
    generalize hall : turns ++ [turn] = all at h
    cases h with
    | handed h =>
      obtain ⟨rfl, hturn⟩ := List.append_inj' hall rfl
      cases hturn
      exact .inl h
    | still h hkeeps =>
      obtain ⟨rfl, hturn⟩ := List.append_inj' hall rfl
      cases hturn
      exact .inr ⟨h, hkeeps⟩
  · rintro (h | ⟨h, hkeeps⟩)
    · exact .handed h
    · exact .still h hkeeps

/-- In a session that began with nothing held, a name holds what has been handed out under it and
not been let go of. -/
theorem holds_iff (hsound : desk.Sound) (hfresh : desk.held = []) (turns : List Turn)
    (name : String) (held : Held) :
    desk.Holds turns name held ↔ (desk.afterTurns turns).find? name = some held := by
  induction turns using List.reverseRecOn generalizing held with
  | nil =>
    rw [afterTurns, List.foldl_nil, find?, hfresh]
    simp [not_holds_nil]
  | append_singleton turns turn ih =>
    have hready : (desk.afterTurns turns).Ready := (hsound.afterTurns turns).ready
    rw [holds_concat, ih, afterTurns_concat, find?_turn hready]

/-- Whether anything still relies on the size of the memory: the cursor, or a window that is held. -/
def ReliedOn (desk : Desk) (turns : List Turn) : Prop :=
  (desk.afterTurns turns).isOpen = true ∨ ∃ name window, desk.Holds turns name (.window window)

/-- What holds between the memory and what has been handed out, wherever the turns have led. -/
structure SharesMemory (desk : Desk) (turns : List Turn) (now : Desk) : Prop where
  inside : desk.ReliedOn turns → 0 ≤ now.position ∧ now.position ≤ now.items.size
  keepsSize : desk.ReliedOn turns → ∀ items : Array Cell, items.size ≠ now.items.size →
    ∃ fault, now.turn (.replace items) = (now, .error fault) ∧ fault.kind = .buffer
  refusesGrowth : desk.ReliedOn turns → ∀ value,
    ∃ fault, now.obey (.grow value) = (now, .error fault)
  /-- A window shows what stands in memory now between the bounds that it was made with. -/
  shows : ∀ name window, desk.Holds turns name (.window window) →
    now.Fits window ∧ now.obey (.items name) = (now, .ok (.cells (now.valuesIn window)))
  /-- The cursor's own span shows all of the memory, and nothing once the cursor is closed. -/
  showsWhole : ∀ name, desk.Holds turns name .whole → now.obey (.items name) =
    (now, if now.isOpen then .ok (.cells (now.valuesIn ⟨0, now.items.size⟩)) else .error .released)
  refusesWriting : ∀ name held, desk.Holds turns name held → ∀ index value,
    ∃ fault, now.obey (.write name index value) = (now, .error fault)
  onlyOwnerWrites : ∀ command : Command, ¬ command.IsOwners →
    (now.obey command).1.items = now.items
  resizes : ¬ desk.ReliedOn turns → ∀ items : Array Cell,
    now.turn (.replace items) = ({ now with items }, .ok (.value .none))
  grows : ¬ desk.ReliedOn turns → ∀ value cell, now.cellOf value = .ok cell →
    now.obey (.grow value) = ({ now with items := now.items.push cell }, .ok (.value .none))

/-- Inspecting a name shows what is found under it, and changes nothing. -/
theorem inspect_of_find? {name : String} {held : Held} (h : desk.find? name = some held)
    (look : Window → Except Fault Answer) :
    desk.inspect name look = (desk, desk.windowOf held >>= look) := by
  rw [inspect, h]

theorem windowOf_whole (desk : Desk) :
    desk.windowOf .whole =
      if desk.isOpen then .ok ⟨0, desk.items.size⟩ else .error .released := rfl

/-- To look at what is held never gives leave to write. -/
theorem refuses_write {name : String} {held : Held} (h : desk.find? name = some held)
    (index value : Int) : ∃ fault, desk.obey (.write name index value) = (desk, .error fault) := by
  rw [obey, inspect_of_find? h]
  cases desk.windowOf held with
  | error fault => exact ⟨fault, rfl⟩
  | ok window => exact ⟨.readOnly, rfl⟩

/-- Appending is refused while somebody relies on the size of the memory. -/
theorem refuses_grow (h : desk.isHeld = true) (value : Int) :
    ∃ fault, desk.obey (.grow value) = (desk, .error fault) := by
  rw [obey]
  cases hgrow : desk.grow value with
  | error fault => exact ⟨fault, rfl⟩
  | ok desk' =>
    obtain ⟨cell, -, hfree, -⟩ := exists_of_grow hgrow
    exact absurd h (Bool.eq_false_iff.1 hfree)

/-- Only the owner's commands write to the memory. -/
theorem items_obey (hready : desk.Ready) {command : Command} (howner : ¬ command.IsOwners) :
    (desk.obey command).1.items = desk.items := by
  cases hdrop : (Turn.command command).dropped? with
  | none => exact (hands_obey hready howner hdrop).items
  | some name =>
    cases command with
    | drop dropped =>
      rw [obey]
      split <;> rfl
    | _ => cases hdrop

/-- Whatever the turns of a session are, the memory keeps its size for as long as the cursor is open
or a window is held, every window that is held shows the memory as it is, and afterwards the owner
is free to resize it. -/
theorem sharesMemory_afterTurns (hstart : desk.memory.checkPosition desk.position = .ok ())
    (hfresh : desk.held = []) (turns : List Turn) :
    desk.SharesMemory turns (desk.afterTurns turns) := by
  have hready : desk.Ready := ready_of_checkPosition hstart
  have hbegins : desk.Sound := by
    refine ⟨?_, ?_, fun _ => hready (isOpen_of_checkPosition hstart)⟩
    · rw [hfresh]
      rintro entry ⟨⟩
    · intro name window hfound
      rw [find?, hfresh] at hfound
      cases hfound
  -- What the names hold after the turns is found in the session, so its soundness tells the rest.
  have hsound : (desk.afterTurns turns).Sound := hbegins.afterTurns turns
  have hholds (name : String) (held : Held) := holds_iff hbegins hfresh turns name held
  have hrelied : desk.ReliedOn turns ↔ (desk.afterTurns turns).isHeld = true := by
    simp only [ReliedOn, isHeld_iff hsound.visible, hholds]
  generalize desk.afterTurns turns = now at hsound hholds hrelied ⊢
  constructor
  case inside => exact fun hrelies => hsound.inside (hrelied.1 hrelies)
  case keepsSize =>
    intro hrelies items hsize
    obtain ⟨fault, hreplace, hkind⟩ := replace_of_held (hrelied.1 hrelies) hsize
    refine ⟨fault, ?_, hkind⟩
    rw [turn, hreplace]
    rfl
  case refusesGrowth => exact fun hrelies value => refuses_grow (hrelied.1 hrelies) value
  case shows =>
    intro name window h
    have hfound := (hholds name _).1 h
    refine ⟨hsound.fits name window hfound, ?_⟩
    rw [obey, inspect_of_find? hfound]
    rfl
  case showsWhole =>
    intro name h
    rw [obey, inspect_of_find? ((hholds name _).1 h), windowOf_whole]
    split <;> rfl
  case refusesWriting =>
    exact fun name held h index value => refuses_write ((hholds name held).1 h) index value
  case onlyOwnerWrites => exact fun command howner => items_obey hsound.ready howner
  case resizes =>
    intro hfree items
    rw [turn, replace_of_free (Bool.eq_false_iff.2 fun hheld => hfree (hrelied.2 hheld))]
    rfl
  case grows =>
    intro hfree value cell hcell
    rw [obey, grow_eq_replace hcell,
      replace_of_free (Bool.eq_false_iff.2 fun hheld => hfree (hrelied.2 hheld))]
    rfl

/-- Two bytes behind the first one of three. -/
def lending : Desk where
  owner := .mutableBytes
  format := Cell.byteFormat
  items := #[.ofByte 5, .ofByte 6, .ofByte 7]
  position := 1

/-- They are read, overwritten, and still held when the cursor is closed. -/
def lent : List Turn := [.command (.read 2 (some "pair")), .command (.poke 1 9), .command .close]

/-- The window over the two elements is still held once the owner has written to them and the cursor
is closed. -/
theorem holds_lent : lending.Holds lent "pair" (.window ⟨1, 3⟩) := by
  have hread : lending.Holds ([] ++ lent.take 1) "pair" (.window ⟨1, 3⟩) := .handed rfl
  have hpoked : lending.Holds (lent.take 1 ++ [.command (.poke 1 9)]) "pair" (.window ⟨1, 3⟩) :=
    .still hread (not_letsGo rfl rfl)
  have hclosed : lending.Holds (lent.take 2 ++ [.command .close]) "pair" (.window ⟨1, 3⟩) :=
    .still hpoked (not_letsGo rfl rfl)
  exact hclosed

/-- Two bytes that have been read and are then overwritten by their owner show what the owner has
written, keep the owner from appending, and no longer do so once they are dropped. -/
theorem sharesMemory_afterTurns_lent :
    lending.memory.checkPosition lending.position = .ok () ∧ lending.held = [] ∧
      ((lending.afterTurns lent).obey (.items "pair")).2 = .ok (.cells [9, 7]) ∧
      (∃ fault, (lending.afterTurns lent).obey (.grow 8) =
        (lending.afterTurns lent, .error fault)) ∧
      ((lending.afterTurns (lent ++ [.command (.drop "pair")])).obey (.grow 8)).2 =
        .ok (.value .none) := by
  have hstart : lending.memory.checkPosition lending.position = .ok () := rfl
  have hshares : lending.SharesMemory lent (lending.afterTurns lent) :=
    sharesMemory_afterTurns hstart rfl lent
  refine ⟨hstart, rfl, ?_, ?_, rfl⟩
  · rw [(hshares.shows "pair" _ holds_lent).2]
    rfl
  · exact hshares.refusesGrowth (.inr ⟨"pair", _, holds_lent⟩) 8

end Desk

end Scanning.Span
