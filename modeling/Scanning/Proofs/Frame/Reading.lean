import Scanning.Proofs.Frame.Encoding
import Scanning.Proofs.Span.Fields

namespace Scanning.Frame

open Scanning.Span (ofList)

variable {τ : Type} {data rest : List UInt8} {content : Content} {tag : UInt8} {k : Nat}
  {memory : τ}

/-- The numbers of a frame that is read are in their bounds. -/
theorem ofNumbers_eq (tag : UInt8) (offset : Nat) (payload : List UInt8) :
    ofNumbers tag.toNat offset payload = .ok ⟨tag.toNat, offset, payload⟩ := by
  have hlow : ¬ (tag.toNat : Int) < 0 := by omega
  have hhigh : ¬ (255 : Int) < tag.toNat := by
    have := tag.toNat_lt
    omega
  have hoffset : ¬ (offset : Int) < 0 := by omega
  simp only [ofNumbers, readTag, readOffset, Record.readIntBetween, Record.readIntFrom,
    Record.readInt, Record.present, Record.Checked.field, bind, Except.bind, pure, Except.pure,
    hlow, hhigh, hoffset, ↓reduceIte, Int.toNat_natCast]

theorem uint_tag (h : data.drop k = tag :: rest) :
    Span.uint 1 (ofList data) ⟨k, memory⟩ = .ok tag.toNat ⟨(k + 1 : Nat), memory⟩ := by
  have hk := Nat.le_of_lt (lt_length_of_drop_eq h)
  have hpiece : data.drop k = [tag] ++ rest := h
  calc Span.uint (1 : Nat) (ofList data) ⟨k, memory⟩
    _ = .ok (ofBigEndian ([tag].flatMap Stored.bytes)) ⟨(k + 1 : Nat), memory⟩ :=
      Span.uint_eq hk hpiece rfl
    _ = .ok tag.toNat ⟨(k + 1 : Nat), memory⟩ := by
      rw [Span.flatMap_storedBytes, ofBigEndian_singleton]

theorem uint_length {bytes : List UInt8} (hk : k ≤ data.length) (hfour : bytes.length = 4)
    (h : data.drop k = bytes ++ rest) :
    Span.uint 4 (ofList data) ⟨k, memory⟩ = .ok (ofBigEndian bytes) ⟨(k + 4 : Nat), memory⟩ := by
  calc Span.uint (4 : Nat) (ofList data) ⟨k, memory⟩
    _ = .ok (ofBigEndian (bytes.flatMap Stored.bytes)) ⟨(k + 4 : Nat), memory⟩ :=
      Span.uint_eq hk h hfour
    _ = .ok (ofBigEndian bytes) ⟨(k + 4 : Nat), memory⟩ := by rw [Span.flatMap_storedBytes]

/-- Where the bytes of a frame are next, its tag and its payload are read and left behind. -/
theorem readFields_eq (h : data.drop k = content.bytes ++ rest) :
    readFields (ofList data) ⟨k, memory⟩ =
      .ok (content.tag.toNat, content.payload) ⟨(k + content.bytes.length : Nat), memory⟩ := by
  have htag : data.drop k =
      content.tag :: (bigEndian 4 content.payload.length ++ (content.payload ++ rest)) := by
    rw [h, Content.bytes, Content.header, List.cons_append, List.cons_append, List.append_assoc]
  have hk := lt_length_of_drop_eq htag
  have hlength : data.drop (k + 1) =
      bigEndian 4 content.payload.length ++ (content.payload ++ rest) :=
    drop_add_of_drop_eq (show data.drop k = [content.tag] ++ _ from htag)
  have hroom := add_length_le_of_drop_eq hk hlength
  have hpayload := drop_add_of_drop_eq hlength
  rw [length_bigEndian] at hroom hpayload
  rw [readFields, Move.bind_of_ok (uint_tag htag),
    Move.bind_of_ok (uint_length hk (length_bigEndian 4 _) hlength),
    ofBigEndian_bigEndian content.fits,
    Move.bind_of_ok (Span.take_eq hroom hpayload rfl), Span.flatMap_storedBytes]
  have hend : k + 1 + 4 + content.payload.length = k + content.bytes.length := by
    rw [content.length_bytes, headerSize]
    omega
  rw [hend]
  rfl

/-- Where no frame is, the reader runs short: the length is cut off, or the payload. -/
theorem readFields_short (memory : τ) (hk : k < data.length)
    (hnone : ∀ content : Content, ¬ content.bytes <+: data.drop k) :
    ∃ (need left : Int) (place : Option Int) (standing : Standing τ),
      readFields (ofList data) ⟨k, memory⟩ =
        .error (.parse ⟨.span, .underrun need left, place⟩) standing := by
  have htag : data.drop k = data[k] :: data.drop (k + 1) := List.drop_eq_getElem_cons hk
  rw [readFields, Move.bind_of_ok (uint_tag htag)]
  by_cases hheader : data.length < k + 1 + 4
  · exact ⟨_, _, _, _, Move.bind_of_error (Span.uint_short hheader)⟩
  have hfour : ((data.drop (k + 1)).take 4).length = 4 := by
    rw [List.length_take, List.length_drop]
    omega
  have hlength : data.drop (k + 1) = (data.drop (k + 1)).take 4 ++ data.drop (k + 1 + 4) := by
    rw [← List.drop_drop (i := 4), List.take_append_drop]
  generalize (data.drop (k + 1)).take 4 = bytes at hfour hlength
  rw [Move.bind_of_ok (uint_length hk hfour hlength)]
  by_cases hpayload : data.length < k + 1 + 4 + ofBigEndian bytes
  · exact ⟨_, _, _, _, Move.bind_of_error (Span.take_short hpayload)⟩
  -- All of a frame is there, which the hypothesis excludes.
  have hroom : ofBigEndian bytes ≤ (data.drop (k + 1 + 4)).length := by
    rw [List.length_drop]
    omega
  obtain ⟨content, hcontent⟩ := exists_bytes_prefix data[k] hfour hroom
  rw [← hlength, ← htag] at hcontent
  exact absurd hcontent (hnone content)

/-- A frame whose bytes are next is taken. -/
theorem readFrame_eq (h : data.drop k = content.bytes ++ rest) :
    readFrame (ofList data) ⟨k, memory⟩ =
      .ok ⟨content.tag.toNat, k, content.payload⟩ ⟨(k + content.bytes.length : Nat), memory⟩ := by
  rw [readFrame, readFields_eq h]
  simp only [ofNumbers_eq]

/-- The failure of a frame is its own, at its start. -/
theorem readFrame_short (memory : τ) (hk : k < data.length)
    (hnone : ∀ content : Content, ¬ content.bytes <+: data.drop k) :
    ∃ (need left : Int) (standing : Standing τ),
      readFrame (ofList data) ⟨k, memory⟩ =
        .error (.parse ⟨.frames, .truncatedFrame need left, some k⟩) standing := by
  obtain ⟨need, left, place, standing, hfields⟩ := readFields_short memory hk hnone
  refine ⟨need, left, standing, ?_⟩
  rw [readFrame, hfields]
  rfl

end Scanning.Frame
