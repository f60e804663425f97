import Scanning.Proofs.Span.Holding

namespace Scanning

namespace MachineNumber

variable {number : MachineNumber} {numbers : List MachineNumber} {value : Int}

/-- A number passes the check of a machine number if the format of that has room for it. -/
theorem check_of_holds (h : number.format.Holds value) : number.check value = .ok () := by
  obtain ⟨hleast, hgreatest⟩ := h
  rw [check, if_neg (by omega), if_neg (by omega)]

/-- A number that does not pass is told from which side it misses the format. -/
theorem check_of_not_holds (h : ¬ number.format.Holds value) :
    number.check value = .error (.outsideNumber number (decide (value < number.format.least))) := by
  rw [CellFormat.Holds] at h
  rw [check]
  by_cases hbelow : value < number.format.least
  · rw [if_pos hbelow, decide_eq_true hbelow]
  · rw [if_neg hbelow, if_pos (by omega), decide_eq_false hbelow]

/-- A number that each machine number on the way has room for passes them all. -/
theorem checkAll_of_holds (h : ∀ number ∈ numbers, number.format.Holds value) :
    checkAll value numbers = .ok () := by
  induction numbers with
  | nil => rfl
  | cons first others ih =>
    obtain ⟨hfirst, hothers⟩ := List.forall_mem_cons.1 h
    rw [checkAll, check_of_holds hfirst]
    exact ih hothers

/-- A number that some machine number on the way has no room for is refused at the first of them. -/
theorem checkAll_of_not_holds (h : ∃ number ∈ numbers, ¬ number.format.Holds value) :
    ∃ refusing ∈ numbers, ¬ refusing.format.Holds value ∧
      checkAll value numbers =
        .error (.outsideNumber refusing (decide (value < refusing.format.least))) := by
  induction numbers with
  | nil =>
    obtain ⟨number, hmem, -⟩ := h
    cases hmem
  | cons first others ih =>
    rw [checkAll]
    by_cases hfirst : first.format.Holds value
    · obtain ⟨number, hmem, hnot⟩ := h
      have hothers : number ∈ others := by
        obtain rfl | hothers := List.mem_cons.1 hmem
        · exact absurd hfirst hnot
        · exact hothers
      obtain ⟨refusing, hrefusing, hout, hfails⟩ := ih ⟨number, hothers, hnot⟩
      rw [check_of_holds hfirst]
      exact ⟨refusing, List.mem_cons_of_mem _ hrefusing, hout, hfails⟩
    · rw [check_of_not_holds hfirst]
      exact ⟨first, List.mem_cons_self, hfirst, rfl⟩

/-- One of the machine numbers on the way into an item has the item's own format. -/
theorem exists_conversion (number : MachineNumber) :
    ∃ own ∈ number.format.conversions, own.format = number.format := by
  cases number <;> decide

/-- The machine numbers on the way into an item have room for all that the item has room for. -/
theorem bounds_conversions (number : MachineNumber) :
    ∀ passed ∈ number.format.conversions, passed.format.least ≤ number.format.least ∧
      number.format.least ≤ number.format.greatest ∧
      number.format.greatest ≤ passed.format.greatest := by
  cases number <;> decide

end MachineNumber

namespace Cell

open MachineNumber

variable {number : MachineNumber} {value : Int} {cell : Cell}

/-- A number that the format of a machine number has room for becomes an item of that format. -/
theorem ofNumber_of_holds (h : number.format.Holds value) :
    ofNumber number.format value = .ok ⟨number.format, value⟩ := by
  have hpasses : checkAll value number.format.conversions = .ok () := by
    refine checkAll_of_holds fun passed hpassed => ?_
    obtain ⟨hleast, -, hgreatest⟩ := bounds_conversions number passed hpassed
    exact ⟨Int.le_trans hleast h.1, Int.le_trans h.2 hgreatest⟩
  rw [ofNumber, hpasses]
  rfl

/-- Any other number is refused by a machine number on the way into the item, and rightly told to be
below the least number of the format or above the greatest. -/
theorem ofNumber_of_not_holds (h : ¬ number.format.Holds value) :
    ∃ refusing ∈ number.format.conversions, ofNumber number.format value =
      .error (.outsideNumber refusing (decide (value < number.format.least))) := by
  obtain ⟨own, hown, hformat⟩ := exists_conversion number
  obtain ⟨refusing, hrefusing, hout, hfails⟩ :=
    checkAll_of_not_holds ⟨own, hown, hformat ▸ h⟩
  have hside : value < refusing.format.least ↔ value < number.format.least := by
    have hbounds := bounds_conversions number refusing hrefusing
    rw [CellFormat.Holds] at h hout
    omega
  rw [ofNumber, hfails]
  simp only [hside]
  exact ⟨refusing, hrefusing, rfl⟩

/-- What becomes an item of a machine number's format is a number that the format has room for. -/
theorem holds_of_ofNumber (h : ofNumber number.format value = .ok cell) :
    number.format.Holds value ∧ cell = ⟨number.format, value⟩ := by
  by_cases hholds : number.format.Holds value
  · rw [ofNumber_of_holds hholds] at h
    cases h
    exact ⟨hholds, rfl⟩
  · obtain ⟨refusing, -, hfails⟩ := ofNumber_of_not_holds hholds
    cases hfails.symm.trans h

end Cell

namespace Span.Desk

variable {desk : Desk}

/-- A session whose memory holds items of one format, each of them a number that the format has room
for. The items of bytes are bytes, and those of an array machine numbers. -/
structure Formatted (desk : Desk) : Prop where
  bytes : desk.owner ≠ .array → desk.format = Cell.byteFormat
  machine : ∃ number : MachineNumber, desk.format = number.format
  items : ∀ cell ∈ desk.items, cell.format = desk.format ∧ desk.format.Holds cell.value

/-- A session on bytes is formatted. -/
theorem formatted_ofBytes (isMutable : Bool) (data : List UInt8) (position : Int) :
    (ofBytes isMutable data position).Formatted where
  bytes _ := rfl
  machine := ⟨.unsignedByte, rfl⟩
  items cell hcell := by
    obtain ⟨byte, -, rfl⟩ := List.mem_map.1 (List.mem_toArray.1 hcell)
    have hlt := byte.toNat_lt
    refine ⟨rfl, Int.natCast_nonneg _, ?_⟩
    change (byte.toNat : Int) ≤ 255
    omega

/-- Numbers that become items together are all numbers that the format has room for. -/
theorem holds_of_mapM {number : MachineNumber} {values : List Int} {cells : List Cell}
    (h : values.mapM (Cell.ofNumber number.format) = .ok cells) :
    ∀ cell ∈ cells, cell.format = number.format ∧ number.format.Holds cell.value := by
  induction values generalizing cells with
  | nil =>
    cases h
    rintro cell ⟨⟩
  | cons value others ih =>
    rw [List.mapM_cons] at h
    obtain ⟨first, hfirst, h⟩ := Fault.bind_eq_ok.1 h
    obtain ⟨rest, hrest, h⟩ := Fault.bind_eq_ok.1 h
    cases h
    obtain ⟨hholds, rfl⟩ := Cell.holds_of_ofNumber hfirst
    exact List.forall_mem_cons.2 ⟨⟨rfl, hholds⟩, ih hrest⟩

/-- An array is refused where a number is given that the format has no room for, so a session on an
array is formatted. -/
theorem formatted_ofNumbers {number : MachineNumber} {values : List Int} {position : Int}
    (h : ofNumbers number.format values position = .ok desk) : desk.Formatted := by
  obtain ⟨cells, hcells, heq⟩ := Fault.bind_eq_ok.1 h
  cases heq
  exact ⟨fun howner => absurd rfl howner, ⟨number, rfl⟩,
    fun cell hcell => holds_of_mapM hcells cell (List.mem_toArray.1 hcell)⟩

/-- What the owner accepts as an item is a number that the format has room for. -/
theorem Formatted.holds_of_cellOf (h : desk.Formatted) {value : Int} {cell : Cell}
    (hcell : desk.cellOf value = .ok cell) :
    cell.format = desk.format ∧ desk.format.Holds cell.value := by
  rw [cellOf] at hcell
  split at hcell
  · cases hcell
  · rename_i howner
    split at hcell
    · rename_i hbyte
      cases hcell
      rw [h.bytes (by rw [howner]; decide)]
      exact ⟨rfl, hbyte.1, Int.le_of_lt_add_one hbyte.2⟩
    · cases hcell
  · obtain ⟨number, hnumber⟩ := h.machine
    rw [hnumber] at hcell ⊢
    obtain ⟨hholds, rfl⟩ := Cell.holds_of_ofNumber hcell
    exact ⟨rfl, hholds⟩

/-- No command puts a number into the memory that its format has no room for. -/
theorem formatted_obey (hready : desk.Ready) (h : desk.Formatted) (command : Command) :
    (desk.obey command).1.Formatted := by
  obtain ⟨howner, hformat⟩ : (desk.obey command).1.owner = desk.owner ∧
      (desk.obey command).1.format = desk.format := format_obey command
  refine ⟨fun hbytes => ?_, hformat ▸ h.machine, ?_⟩
  · rw [hformat]
    exact h.bytes (howner ▸ hbytes)
  rw [hformat]
  by_cases howns : command.IsOwners
  · cases command with
    | poke index value =>
      rw [obey]
      cases hpoke : desk.poke index value with
      | error fault => exact h.items
      | ok desk' =>
        obtain ⟨place, cell, hcell, rfl⟩ := exists_of_poke hpoke
        intro item hitem
        obtain hitem | rfl := Array.mem_or_eq_of_mem_setIfInBounds hitem
        · exact h.items item hitem
        · exact h.holds_of_cellOf hcell
    | grow value =>
      rw [obey]
      cases hgrow : desk.grow value with
      | error fault => exact h.items
      | ok desk' =>
        obtain ⟨cell, hcell, -, rfl⟩ := exists_of_grow hgrow
        intro item hitem
        obtain hitem | rfl := Array.mem_push.1 hitem
        · exact h.items item hitem
        · exact h.holds_of_cellOf hcell
    | _ => exact howns.elim
  · rw [items_obey hready howns]
    exact h.items

/-- Whatever commands a session is given, the memory holds no number that its format has no room
for. -/
theorem formatted_after (hready : desk.Ready) (h : desk.Formatted) (commands : List Command) :
    (desk.after commands).Formatted := by
  induction commands generalizing desk with
  | nil => exact h
  | cons command others ih => exact ih (ready_obey hready command) (formatted_obey hready h command)

end Span.Desk

end Scanning
