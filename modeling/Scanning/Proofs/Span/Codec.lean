import Scanning.Proofs.Span.BigEndian
import Scanning.Proofs.Span.Desk
import Scanning.Proofs.Span.Fields

namespace Scanning.Span

open Session (Memory)

variable {τ ε : Type} {elements piece rest : List ε} {k : Nat} {memory : τ}

section Stored

variable [Stored ε]

/-- Elements that are stored in one width each take as many bytes together as there are of them,
times that width. -/
theorem length_flatMap_bytes {width : Nat}
    (h : ∀ element ∈ piece, (Stored.bytes element).length = width) :
    (piece.flatMap Stored.bytes).length = piece.length * width := by
  rw [List.length_flatMap, List.map_congr_left h, List.map_const', List.sum_replicate_nat]

/-- The bytes of the piece that is next are counted when it has been taken. -/
theorem takeExact_eq {count : Nat} (hk : k ≤ elements.length)
    (h : elements.drop k = piece ++ rest) (hcount : piece.length = count) :
    takeExact count (ofList elements) ⟨k, memory⟩ =
      if (piece.flatMap Stored.bytes).length = count then
        .ok (piece.flatMap Stored.bytes) ⟨(k + count : Nat), memory⟩
      else .error (.wrongSize count) ⟨(k + count : Nat), memory⟩ := by
  rw [takeExact, Move.bind_of_ok (take_eq hk h hcount)]
  split <;> rfl

/-- Taking more elements than there are raises the underrun, with how many there are, and stays. -/
theorem takeExact_short {count : Nat} (hshort : elements.length < k + count) :
    takeExact count (ofList elements) ⟨k, memory⟩ =
      .error (.parse ⟨.span, .underrun count (elements.length - k), some k⟩) ⟨k, memory⟩ := by
  rw [takeExact, Move.bind_of_error (take_short hshort)]

end Stored

theorem length_bytes_cell (cell : Cell) : (Stored.bytes cell).length = cell.format.width :=
  length_littleEndian _ _

/-- A command that reads a field of binary data. -/
def Command.IsField : Command → Prop
  | view _ | take _ | readAscii _ | uint _ | sint _ | f32 | f64 => True
  | _ => False

namespace Desk

variable {desk : Desk} {command : Command} {width : Nat}

/-- Both sizes of floating-point numbers are read by taking as many elements as the number has bytes
and interpreting the bits. -/
theorem obey_of_floatWidth (desk : Desk) (h : command.floatWidth? = some width) :
    0 < width ∧ ∃ bits : List UInt8 → Nat,
      desk.obey command = desk.ask (do return bits (← takeExact width)) .double := by
  cases command with
  | f32 =>
    cases h
    exact ⟨by decide, fun bytes => widenSingle (ofBigEndian bytes), rfl⟩
  | f64 =>
    cases h
    exact ⟨by decide, ofBigEndian, rfl⟩
  | _ => cases h

/-- A floating-point number for which there are not enough elements leaves the desk in place. -/
theorem inPlace_of_short (hready : desk.Ready) (hopen : desk.isOpen = true)
    (hfloat : command.floatWidth? = some width)
    (hshort : desk.items.size < desk.position + width) : desk.InPlace (desk.obey command) := by
  obtain ⟨k, hk, hle⟩ := hready.exists_place hopen
  obtain ⟨-, bits, hobey⟩ := obey_of_floatWidth desk hfloat
  obtain ⟨fault, htake⟩ : ∃ fault, takeExact width desk.memory
      (⟨desk.position, {}⟩ : Standing Memory) = .error fault ⟨desk.position, {}⟩ := by
    rw [memory_eq_ofList hopen, hk]
    exact ⟨_, takeExact_short (by rw [Array.length_toList]; omega)⟩
  rw [hobey, ask_of_error (Move.bind_of_error htake)]
  exact fun _ _ => rfl

section Room

variable (hready : desk.Ready) (hopen : desk.isOpen = true)
  (hformat : ∀ cell ∈ desk.items.toList, cell.format = desk.format)
  (hfloat : command.floatWidth? = some width) (hroom : desk.position + width ≤ desk.items.size)

include hready hopen hformat hroom

/-- Where the elements are there, their bytes are taken or are too many. -/
theorem takeExact_of_room :
    ∃ bytes : List UInt8, bytes.length = width * desk.format.width ∧
      takeExact width desk.memory (⟨desk.position, {}⟩ : Standing Memory) =
        if bytes.length = width then .ok bytes ⟨desk.position + width, {}⟩
        else .error (.wrongSize width) ⟨desk.position + width, {}⟩ := by
  obtain ⟨k, hk, hle⟩ := hready.exists_place hopen
  have hlength : ((desk.items.toList.drop k).take width).length = width := by
    rw [List.length_take, List.length_drop, Array.length_toList]
    omega
  have hcells : ∀ cell ∈ (desk.items.toList.drop k).take width,
      (Stored.bytes cell).length = desk.format.width := by
    intro cell hcell
    rw [length_bytes_cell, hformat cell (List.mem_of_mem_drop (List.mem_of_mem_take hcell))]
  refine ⟨((desk.items.toList.drop k).take width).flatMap Stored.bytes, ?_, ?_⟩
  · rw [length_flatMap_bytes hcells, hlength]
  · rw [memory_eq_ofList hopen, hk, ← Int.natCast_add]
    exact takeExact_eq hle (List.take_append_drop width _).symm hlength

include hfloat

/-- Over elements of one byte each a floating-point number for which there are enough elements is
read, so that nothing fails. -/
theorem inPlace_of_room (hwidth : desk.format.width = 1) : desk.InPlace (desk.obey command) := by
  obtain ⟨-, bits, hobey⟩ := obey_of_floatWidth desk hfloat
  obtain ⟨bytes, hlength, htake⟩ := takeExact_of_room hready hopen hformat hroom
  rw [hwidth, Nat.mul_one] at hlength
  rw [if_pos hlength] at htake
  intro fault hfails
  rw [hobey, ask_of_ok (Move.bind_of_ok htake)] at hfails
  cases hfails

/-- The cursor is behind the elements when their number of bytes is refused. -/
theorem obey_of_wide (hwidth : desk.format.width ≠ 1) :
    desk.obey command =
      ({ desk with position := desk.position + width }, .error (.wrongSize width)) := by
  obtain ⟨hpos, bits, hobey⟩ := obey_of_floatWidth desk hfloat
  obtain ⟨bytes, hlength, htake⟩ := takeExact_of_room hready hopen hformat hroom
  have hbytes : bytes.length ≠ width := by
    intro heq
    rw [heq] at hlength
    exact hwidth (Nat.eq_of_mul_eq_mul_left hpos (hlength.symm.trans (Nat.mul_one width).symm))
  rw [if_neg hbytes] at htake
  rw [hobey, ask_of_error (Move.bind_of_error htake)]

end Room

/-- A field that fails leaves the cursor where it is, except that a floating-point number is refused
behind its elements if these are all there and are not bytes. -/
theorem field_inPlace_iff (hstart : desk.memory.checkPosition desk.position = .ok ())
    (hformat : ∀ cell ∈ desk.items.toList, cell.format = desk.format) (hfield : command.IsField) :
    (desk.InPlace (desk.obey command) ↔
      ¬ ∃ width : Nat, command.floatWidth? = some width ∧
        desk.position + width ≤ desk.items.size ∧ desk.format.width ≠ 1) ∧
    ∀ width : Nat, command.floatWidth? = some width →
      desk.position + width ≤ desk.items.size → desk.format.width ≠ 1 →
      desk.obey command =
        ({ desk with position := desk.position + width }, .error (.wrongSize width)) := by
  have hopen : desk.isOpen = true := isOpen_of_checkPosition hstart
  have hready : desk.Ready := ready_of_checkPosition hstart
  have htorn (width : Nat) (hfloat : command.floatWidth? = some width)
      (hroom : desk.position + width ≤ desk.items.size) (hwidth : desk.format.width ≠ 1) :
      desk.obey command =
        ({ desk with position := desk.position + width }, .error (.wrongSize width)) :=
    obey_of_wide hready hopen hformat hfloat hroom hwidth
  refine ⟨⟨?_, ?_⟩, htorn⟩
  · rintro hinPlace ⟨width, hfloat, hroom, hwidth⟩
    obtain ⟨hpos, -⟩ := obey_of_floatWidth desk hfloat
    rw [htorn width hfloat hroom hwidth] at hinPlace
    have hstays : desk.position + width = desk.position := hinPlace _ rfl
    omega
  · intro hwhole
    cases hfloat : command.floatWidth? with
    | none =>
      have hrun : command.run? = none := by
        cases command with
        | advanceWhile | readWhile => cases hfield
        | _ => rfl
      exact inPlace_obey hrun hfloat
    | some width =>
      by_cases hroom : desk.position + width ≤ desk.items.size
      · by_cases hwidth : desk.format.width = 1
        · exact inPlace_of_room hready hopen hformat hfloat hroom hwidth
        · exact absurd ⟨width, hfloat, hroom, hwidth⟩ hwhole
      · exact inPlace_of_short hready hopen hfloat (by omega)

/-- Four numbers of two bytes each. -/
def fourShorts : Desk where
  owner := .array
  format := ⟨false, 2⟩
  items := #[⟨⟨false, 2⟩, 1⟩, ⟨⟨false, 2⟩, 2⟩, ⟨⟨false, 2⟩, 3⟩, ⟨⟨false, 2⟩, 4⟩]
  position := 0

/-- A number of eight bytes is refused where it begins, one of four bytes behind its elements. -/
theorem field_inPlace_iff_fourShorts :
    fourShorts.memory.checkPosition fourShorts.position = .ok () ∧
      (∀ cell ∈ fourShorts.items.toList, cell.format = fourShorts.format) ∧
      Command.f64.IsField ∧ fourShorts.InPlace (fourShorts.obey .f64) ∧
      fourShorts.obey .f32 = ({ fourShorts with position := 4 }, .error (.wrongSize 4)) := by
  have hstart : fourShorts.memory.checkPosition fourShorts.position = .ok () := rfl
  have hformat : ∀ cell ∈ fourShorts.items.toList, cell.format = fourShorts.format := by decide
  have hdouble : Command.f64.IsField := trivial
  have hsingle : Command.f32.IsField := trivial
  refine ⟨hstart, hformat, hdouble, ?_, ?_⟩
  · refine (field_inPlace_iff hstart hformat hdouble).1.2 ?_
    rintro ⟨width, ⟨⟩, hroom, -⟩
    exact absurd hroom (by decide)
  · exact (field_inPlace_iff hstart hformat hsingle).2 4 rfl (by decide) (by decide)

/-- Eight bytes are no number of four bytes, and the cursor has moved over them. -/
theorem f32_torn : ¬ fourShorts.InPlace (fourShorts.obey .f32) := by
  intro hinPlace
  have hformat : ∀ cell ∈ fourShorts.items.toList, cell.format = fourShorts.format := by decide
  have hroom : fourShorts.position + (4 : Nat) ≤ fourShorts.items.size := by decide
  have hobey : fourShorts.obey .f32 =
      ({ fourShorts with position := 4 }, .error (.wrongSize 4)) :=
    obey_of_wide (ready_of_checkPosition rfl) rfl hformat rfl hroom (by decide)
  rw [hobey] at hinPlace
  cases hinPlace _ rfl

end Desk

end Scanning.Span
