import Scanning.Proofs.Span.Taking
import Scanning.Span.Codec

namespace Scanning.Span

variable {τ ε : Type} {elements piece rest : List ε} {k : Nat} {memory : τ}

/-- With enough elements a view is the window over the next ones, and the cursor is placed behind
them. -/
theorem view_eq {count : Nat} (hroom : k + count ≤ elements.length) :
    view count (ofList elements) ⟨k, memory⟩ = .ok ⟨k, k + count⟩ ⟨(k + count : Nat), memory⟩ := by
  rw [view, Move.bind_of_ok (read_eq hroom)]
  rfl

theorem view_short {count : Nat} (hshort : elements.length < k + count) :
    view count (ofList elements) ⟨k, memory⟩ =
      .error (.parse ⟨.span, .underrun count (elements.length - k), some k⟩) ⟨k, memory⟩ := by
  rw [view, Move.bind_of_ok (read_short hshort)]
  rfl

variable [Stored ε]

/-- A piece that is next is taken as what it is in memory. -/
theorem take_eq {count : Nat} (hk : k ≤ elements.length) (h : elements.drop k = piece ++ rest)
    (hcount : piece.length = count) :
    take count (ofList elements) ⟨k, memory⟩ =
      .ok (piece.flatMap Stored.bytes) ⟨(k + count : Nat), memory⟩ := by
  subst hcount
  have hpiece : (Window.mk k (k + piece.length)).items (ofList elements).items = piece := by
    rw [ofList, Window.items_eq, List.drop_take, Nat.add_sub_cancel_left, h, List.take_left]
  rw [take, Move.bind_of_ok (view_eq (add_length_le_of_drop_eq hk h))]
  exact congrArg (fun items => EStateM.Result.ok (items.flatMap Stored.bytes) _) hpiece

/-- With too few elements taking bytes raises the underrun, with how many there are, and stays. -/
theorem take_short {count : Nat} (hshort : elements.length < k + count) :
    take count (ofList elements) ⟨k, memory⟩ =
      .error (.parse ⟨.span, .underrun count (elements.length - k), some k⟩) ⟨k, memory⟩ := by
  rw [take, Move.bind_of_error (view_short hshort)]

/-- An unsigned integer is the number for which the bytes of the next elements stand, the most
significant first. -/
theorem uint_eq {count : Nat} (hk : k ≤ elements.length) (h : elements.drop k = piece ++ rest)
    (hcount : piece.length = count) :
    uint count (ofList elements) ⟨k, memory⟩ =
      .ok (ofBigEndian (piece.flatMap Stored.bytes)) ⟨(k + count : Nat), memory⟩ := by
  rw [uint, Move.bind_of_ok (take_eq hk h hcount)]
  rfl

theorem uint_short {count : Nat} (hshort : elements.length < k + count) :
    uint count (ofList elements) ⟨k, memory⟩ =
      .error (.parse ⟨.span, .underrun count (elements.length - k), some k⟩) ⟨k, memory⟩ := by
  rw [uint, Move.bind_of_error (take_short hshort)]

/-- Bytes are in memory what they are. -/
theorem flatMap_storedBytes (bytes : List UInt8) : bytes.flatMap Stored.bytes = bytes :=
  List.flatMap_singleton' bytes

/-- Elements that stand in memory as these bytes, each as one. -/
def StandAs (elements : List ε) (data : List UInt8) : Prop :=
  elements.map Stored.bytes = data.map fun byte => [byte]

theorem standAs_bytes (data : List UInt8) : StandAs data data := rfl

/-- Cells that are made of bytes stand in memory as these bytes. -/
theorem standAs_ofByte (data : List UInt8) : StandAs (data.map Cell.ofByte) data := by
  rw [StandAs, List.map_map]
  apply List.map_congr_left
  intro byte _
  have hbyte := byte.toNat_lt
  have hsmall : ((byte.toNat : Int) % Nat.pow 256 1).toNat = byte.toNat := by
    rw [show Nat.pow 256 1 = 256 from rfl]
    omega
  change littleEndian 1 ((byte.toNat : Int) % Nat.pow 256 1).toNat = [byte]
  rw [hsmall, littleEndian, littleEndian, UInt8.ofNat_toNat]

section StandAs

variable {data : List UInt8} (hdata : StandAs elements data)

include hdata

theorem StandAs.length_eq : elements.length = data.length := by
  rw [← List.length_map (f := Stored.bytes), hdata, List.length_map]

/-- A piece of the elements stands as the same piece of the bytes. -/
theorem StandAs.flatMap_piece (k count : Nat) :
    ((elements.drop k).take count).flatMap Stored.bytes = (data.drop k).take count := by
  rw [List.flatMap_def, List.map_take, List.map_drop, hdata, ← List.map_drop, ← List.map_take,
    ← List.flatMap_def]
  exact List.flatMap_singleton' _

theorem StandAs.take_eq {count : Nat} (hroom : k + count ≤ data.length) :
    Span.take count (ofList elements) ⟨k, memory⟩ =
      .ok ((data.drop k).take count) ⟨(k + count : Nat), memory⟩ := by
  have hlength := hdata.length_eq
  have hcount : ((elements.drop k).take count).length = count := by
    rw [List.length_take, List.length_drop]
    omega
  rw [Span.take_eq (by omega) (List.take_append_drop count _).symm hcount, hdata.flatMap_piece]

theorem StandAs.take_short {count : Nat} (hshort : data.length < k + count) :
    Span.take count (ofList elements) ⟨k, memory⟩ =
      .error (.parse ⟨.span, .underrun count (data.length - k), some k⟩) ⟨k, memory⟩ := by
  rw [← hdata.length_eq] at hshort ⊢
  exact Span.take_short hshort

end StandAs

end Scanning.Span
