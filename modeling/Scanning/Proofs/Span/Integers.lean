import Mathlib.Algebra.BigOperators.Fin
import Scanning.Proofs.Span.BigEndian
import Scanning.Proofs.Span.Fields

namespace Scanning

/-- The number that the `width` bytes from number `k` on are: each weighs 256 times as much as the
one behind it. -/
def placeValue (data : List UInt8) (k width : Nat) (hroom : k + width ≤ data.length) : Nat :=
  ∑ i : Fin width, data[k + i].toNat * 256 ^ (width - 1 - i)

/-- The number that bytes stand for is the sum of their place values. -/
theorem ofBigEndian_eq_placeValue {data : List UInt8} {k width : Nat}
    (hroom : k + width ≤ data.length) :
    ofBigEndian ((data.drop k).take width) = placeValue data k width hroom := by
  induction width with
  | zero => rfl
  | succ width ih =>
    have hlast : width < (data.drop k).length := by
      rw [List.length_drop]
      omega
    have hfront (i : Fin width) : data[k + i].toNat * 256 ^ (width - 1 - i) * 256 =
        data[k + i].toNat * 256 ^ (width - i) := by
      rw [Nat.mul_assoc, ← pow_succ, show width - 1 - i + 1 = width - i by omega]
    rw [List.take_succ_eq_append_getElem hlast, ofBigEndian_concat, ih (by omega), placeValue,
      placeValue, Fin.sum_univ_castSucc, Finset.sum_mul]
    simp only [Fin.val_castSucc, Fin.val_last, hfront, List.getElem_drop, Nat.add_sub_cancel,
      Nat.sub_self, pow_zero, Nat.mul_one]

namespace Span

/-- Two's complement picks the remainder that is nearest to zero, the negative one of two. -/
theorem ofTwosComplement_eq_bmod (bytes : List UInt8) :
    ofTwosComplement bytes = (ofBigEndian bytes : Int).bmod (256 ^ bytes.length) := by
  cases bytes with
  | nil => rfl
  | cons first rest =>
    have hsplit : ofBigEndian (first :: rest) =
        first.toNat * 256 ^ rest.length + ofBigEndian rest := by
      rw [← ofBigEndian_singleton first]
      exact ofBigEndian_append [first] rest
    have hrest := ofBigEndian_lt rest
    have hfirst := first.toNat_lt
    have hwhole : 256 ^ (first :: rest).length = 256 * 256 ^ rest.length := by
      rw [List.length_cons, pow_succ, Nat.mul_comm]
    have hbound := ofBigEndian_lt (first :: rest)
    have hpow : Nat.pow 256 (first :: rest).length = 256 ^ (first :: rest).length := rfl
    rw [ofTwosComplement, hpow]
    rw [hwhole] at hbound ⊢
    by_cases hsmall : first < 0x80
    · have hhalf : first.toNat ≤ 127 := Nat.le_of_lt_succ (UInt8.lt_iff_toNat_lt.1 hsmall)
      have hprod := Nat.mul_le_mul_right (256 ^ rest.length) hhalf
      rw [if_pos hsmall, Int.bmod_eq_of_le_mul_two (by omega) (by omega)]
    · have hhalf : 128 ≤ first.toNat := UInt8.le_iff_toNat_le.1 (UInt8.not_lt.1 hsmall)
      have hprod := Nat.mul_le_mul_right (256 ^ rest.length) hhalf
      rw [if_neg hsmall, ← Int.sub_bmod_right, Int.bmod_eq_of_le_mul_two (by omega) (by omega)]

/-- The bytes that a signed number is written as, most significant first. -/
def writtenSigned (width : Nat) (z : Int) : List UInt8 :=
  bigEndian width (z % (256 ^ width : Nat)).toNat

/-- A signed integer in the range of so many bytes is read back from the way in which it is
written. -/
theorem ofTwosComplement_writtenSigned {width : Nat} {z : Int}
    (hlow : -(256 ^ width : Nat) ≤ 2 * z) (hhigh : 2 * z < (256 ^ width : Nat)) :
    ofTwosComplement (writtenSigned width z) = z := by
  have hpos : (0 : Int) < (256 ^ width : Nat) := Int.natCast_pos.2 (Nat.pow_pos (by decide))
  have hnonneg := Int.emod_nonneg z (Int.ne_of_gt hpos)
  have hlt := Int.emod_lt_of_pos z hpos
  rw [ofTwosComplement_eq_bmod, writtenSigned, length_bigEndian,
    ofBigEndian_bigEndian (by omega), Int.toNat_of_nonneg hnonneg, Int.emod_bmod]
  exact Int.bmod_eq_of_le_mul_two (by omega) (by omega)

/-- The same amount as a place value, less the whole range where the top bit of the first byte is
set. -/
def signedValue (data : List UInt8) (k width : Nat) (hroom : k + width ≤ data.length) : Int :=
  if 0 < width ∧ data[k]?.any (·.toBitVec.msb) = true then
    placeValue data k width hroom - (256 : Int) ^ width
  else placeValue data k width hroom

/-- The sign of a byte is set exactly from 0x80 on. -/
theorem msb_toBitVec_iff (byte : UInt8) : byte.toBitVec.msb = true ↔ ¬ byte < 0x80 := by
  rw [BitVec.msb_eq_decide, decide_eq_true_iff, UInt8.not_lt]
  rfl

/-- In two's complement some bytes stand for their place value, less the power of 256 when the sign
of the first is set. -/
theorem ofTwosComplement_eq_signedValue {data : List UInt8} {k width : Nat}
    (hroom : k + width ≤ data.length) :
    ofTwosComplement ((data.drop k).take width) = signedValue data k width hroom := by
  cases width with
  | zero => rfl
  | succ width =>
    have hk : k < data.length := by omega
    have hpiece : (data.drop k).take (width + 1) =
        data[k] :: (data.drop (k + 1)).take width := by
      rw [List.drop_eq_getElem_cons hk, List.take_succ_cons]
    have hlength : (data[k] :: (data.drop (k + 1)).take width).length = width + 1 := by
      rw [List.length_cons, List.length_take, List.length_drop]
      omega
    have hpow : ((Nat.pow 256 (width + 1) : Nat) : Int) = 256 ^ (width + 1) :=
      Int.natCast_pow 256 (width + 1)
    rw [signedValue, ← ofBigEndian_eq_placeValue hroom, List.getElem?_eq_getElem hk,
      Option.any_some, hpiece, ofTwosComplement, hlength, hpow]
    by_cases hsmall : data[k] < 0x80
    · rw [if_pos hsmall, if_neg fun h => (msb_toBitVec_iff _).1 h.2 hsmall]
    · rw [if_neg hsmall, if_pos ⟨Nat.succ_pos width, (msb_toBitVec_iff _).2 hsmall⟩]

/-- What reading integers at the byte number `k` of a span comes to. -/
structure ReadsIntegers {τ ε : Type} [Stored ε] (elements : List ε) (data : List UInt8)
    (k width : Nat) (memory : τ) : Prop where
  /-- An unsigned number is the place value of its bytes. -/
  unsigned (hroom : k + width ≤ data.length) :
    uint width (ofList elements) ⟨k, memory⟩ =
      .ok (placeValue data k width hroom) ⟨(k + width : Nat), memory⟩
  /-- A signed number is less by the whole range where the top bit is set. -/
  signed (hroom : k + width ≤ data.length) :
    sint width (ofList elements) ⟨k, memory⟩ =
      .ok (signedValue data k width hroom) ⟨(k + width : Nat), memory⟩
  /-- Unsigned numbers are read back. -/
  unsigned_written (n : Nat) (hfits : n < 256 ^ width)
    (hwritten : bigEndian width n <+: data.drop k) :
    uint width (ofList elements) ⟨k, memory⟩ = .ok n ⟨(k + width : Nat), memory⟩
  /-- Signed numbers are read back. -/
  signed_written (z : Int) (hlow : -(256 ^ width : Nat) ≤ 2 * z)
    (hhigh : 2 * z < (256 ^ width : Nat)) (hwritten : writtenSigned width z <+: data.drop k) :
    sint width (ofList elements) ⟨k, memory⟩ = .ok z ⟨(k + width : Nat), memory⟩
  /-- A number is read in two parts as well as in one. -/
  joined (front back : Nat) (hwidth : front + back = width) (hroom : k + width ≤ data.length) :
    (do
      let high ← uint front
      let low ← uint back
      return high * 256 ^ back + low : Move (Span ε) τ Nat) (ofList elements) ⟨k, memory⟩ =
    uint width (ofList elements) ⟨k, memory⟩
  /-- Where bytes are missing, the cursor stays and the failure tells how many. -/
  short (hshort : data.length < k + width) :
    uint width (ofList elements) ⟨k, memory⟩ =
        .error (.parse ⟨.span, .underrun width (data.length - k), some k⟩) ⟨k, memory⟩ ∧
      sint width (ofList elements) ⟨k, memory⟩ =
        .error (.parse ⟨.span, .underrun width (data.length - k), some k⟩) ⟨k, memory⟩

section Reading

variable {τ ε : Type} [Stored ε] {elements : List ε} {data : List UInt8} {k width : Nat}
  {memory : τ} (hdata : StandAs elements data)

include hdata

/-- An unsigned integer for which there is room is read from the next bytes, and the cursor is
placed behind them. -/
theorem uint_room (hroom : k + width ≤ data.length) :
    uint width (ofList elements) ⟨k, memory⟩ =
      .ok (ofBigEndian ((data.drop k).take width)) ⟨(k + width : Nat), memory⟩ := by
  rw [uint, Move.bind_of_ok (hdata.take_eq hroom)]
  rfl

/-- A signed integer for which there is room is read from the next bytes, and the cursor is placed
behind them. -/
theorem sint_room (hroom : k + width ≤ data.length) :
    sint width (ofList elements) ⟨k, memory⟩ =
      .ok (ofTwosComplement ((data.drop k).take width)) ⟨(k + width : Nat), memory⟩ := by
  rw [sint, Move.bind_of_ok (hdata.take_eq hroom)]
  rfl

/-- Two reads in a row see the two parts of what one read sees. -/
theorem uint_joined {front back : Nat} (hroom : k + (front + back) ≤ data.length) :
    (do
      let high ← uint front
      let low ← uint back
      return high * 256 ^ back + low : Move (Span ε) τ Nat) (ofList elements) ⟨k, memory⟩ =
    uint (front + back : Nat) (ofList elements) ⟨k, memory⟩ := by
  have hback : ((data.drop (k + front)).take back).length = back := by
    rw [List.length_take, List.length_drop]
    omega
  rw [Move.bind_of_ok (uint_room hdata (by omega)), Move.bind_of_ok (uint_room hdata (by omega)),
    uint_room hdata hroom, List.take_add, ofBigEndian_append, List.drop_drop, hback,
    Nat.add_assoc]
  rfl

end Reading

/-- Integers are read from any bytes, at any place and of any width. -/
theorem readsIntegers {τ ε : Type} [Stored ε] {elements : List ε} {data : List UInt8}
    (hdata : StandAs elements data) {k : Nat} (hk : k ≤ data.length) (width : Nat) (memory : τ) :
    ReadsIntegers elements data k width memory where
  unsigned hroom := by
    rw [uint_room hdata hroom, ofBigEndian_eq_placeValue hroom]
  signed hroom := by
    rw [sint_room hdata hroom, ofTwosComplement_eq_signedValue hroom]
  unsigned_written n hfits hwritten := by
    have hroom := hwritten.length_le
    rw [length_bigEndian, List.length_drop] at hroom
    have hpiece := List.prefix_iff_eq_take.1 hwritten
    rw [length_bigEndian] at hpiece
    rw [uint_room hdata (by omega), ← hpiece, ofBigEndian_bigEndian hfits]
  signed_written z hlow hhigh hwritten := by
    have hroom := hwritten.length_le
    rw [writtenSigned, length_bigEndian, List.length_drop] at hroom
    have hpiece := List.prefix_iff_eq_take.1 hwritten
    rw [writtenSigned, length_bigEndian, ← writtenSigned] at hpiece
    rw [sint_room hdata (by omega), ← hpiece, ofTwosComplement_writtenSigned hlow hhigh]
  joined front back hwidth hroom := by
    subst hwidth
    exact uint_joined hdata hroom
  short hshort := by
    rw [uint, sint, Move.bind_of_error (hdata.take_short hshort),
      Move.bind_of_error (hdata.take_short hshort)]
    exact ⟨rfl, rfl⟩

/-- Three bytes, of which the last two are a negative number. -/
def signedTail : List UInt8 := [0xAB, 0xFF, 0xFE]

/-- From the second of three bytes on, a signed integer of two bytes is -2 and an unsigned one
65534, and one of three bytes raises the underrun. -/
theorem readsIntegers_signedTail :
    StandAs signedTail signedTail ∧ 1 ≤ signedTail.length ∧
      sint (2 : Nat) (ofList signedTail) ⟨(1 : Nat), ()⟩ = .ok (-2) ⟨(3 : Nat), ()⟩ ∧
      uint (2 : Nat) (ofList signedTail) ⟨(1 : Nat), ()⟩ = .ok 65534 ⟨(3 : Nat), ()⟩ ∧
      uint (3 : Nat) (ofList signedTail) ⟨(1 : Nat), ()⟩ =
        .error (.parse ⟨.span, .underrun 3 2, some 1⟩) ⟨(1 : Nat), ()⟩ := by
  have hdata : StandAs signedTail signedTail := standAs_bytes signedTail
  have hk : 1 ≤ signedTail.length := by decide
  have htwo := readsIntegers hdata hk 2 ()
  have hthree := readsIntegers hdata hk 3 ()
  refine ⟨hdata, hk, ?_, ?_, ?_⟩
  · exact htwo.signed_written (-2) (by decide) (by decide) (by decide)
  · exact htwo.unsigned_written 65534 (by decide) (by decide)
  · exact (hthree.short (by decide)).1

end Span

end Scanning
