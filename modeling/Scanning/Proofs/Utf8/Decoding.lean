import Scanning.Proofs.PrefixCode
import Scanning.Proofs.Utf8.Offset

namespace Scanning.Utf8

/-- The bytes of a character, by its number, which is no surrogate's. -/
theorem utf8EncodeChar_ofNat {code : Nat}
    (hscalar : code < 0xD800 ∨ 0xDFFF < code ∧ code < 0x110000) :
    String.utf8EncodeChar (Char.ofNat code) =
      if code ≤ 0x7F then [UInt8.ofNat code]
      else if code ≤ 0x7FF then
        [UInt8.ofNat (code / 64 % 0x20 + 0xC0), UInt8.ofNat (code % 64 + 128)]
      else if code ≤ 0xFFFF then
        [UInt8.ofNat (code / 4096 % 0x10 + 0xE0), UInt8.ofNat (code / 64 % 64 + 128),
          UInt8.ofNat (code % 64 + 128)]
      else
        [UInt8.ofNat (code / 262144 % 0x08 + 0xF0), UInt8.ofNat (code / 4096 % 64 + 128),
          UInt8.ofNat (code / 64 % 64 + 128), UInt8.ofNat (code % 64 + 128)] := by
  have hval : (Char.ofNat code).val.toNat = code := by
    have hvalid : code.isValidChar := hscalar
    rw [Char.ofNat, dif_pos hvalid]
    rfl
  rw [String.utf8EncodeChar, hval]

theorem ofNat_eq {n : Nat} (byte : UInt8) (h : n = byte.toNat) : UInt8.ofNat n = byte := by
  rw [h, UInt8.ofNat_toNat]

variable {lead second third fourth : UInt8}

theorem utf8EncodeChar_one (hlead : leadWidth lead = 1) :
    String.utf8EncodeChar (Char.ofNat lead.toNat) = [lead] := by
  rw [leadWidth_eq] at hlead
  have hbounds : lead.toNat ≤ 0x7F := by grind
  rw [utf8EncodeChar_ofNat (by omega), if_pos hbounds, UInt8.ofNat_toNat]

theorem utf8EncodeChar_two (hlead : leadWidth lead = 2)
    (hsecond : mayFollow lead second = true) :
    String.utf8EncodeChar (Char.ofNat (lead.toNat % 32 * 64 + payload second)) =
      [lead, second] := by
  rw [leadWidth_eq] at hlead
  rw [mayFollow_iff, isContinuation_iff] at hsecond
  have hbounds : 194 ≤ lead.toNat ∧ lead.toNat < 224 := by grind
  rw [payload, utf8EncodeChar_ofNat (by omega), if_neg (by omega), if_pos (by omega),
    ofNat_eq lead (by omega), ofNat_eq second (by omega)]

/-- The low continuation bytes behind E0 and the high ones behind ED are the ones that may not
follow: they would be for overlong forms and for surrogates. -/
theorem utf8EncodeChar_three (hlead : leadWidth lead = 3)
    (hsecond : mayFollow lead second = true) (hthird : isContinuation third = true) :
    String.utf8EncodeChar
        (Char.ofNat ((lead.toNat % 16 * 64 + payload second) * 64 + payload third)) =
      [lead, second, third] := by
  rw [leadWidth_eq] at hlead
  rw [mayFollow_iff, isContinuation_iff] at hsecond
  rw [isContinuation_iff] at hthird
  have hbounds : 224 ≤ lead.toNat ∧ lead.toNat < 240 := by grind
  rw [payload, payload, utf8EncodeChar_ofNat (by omega), if_neg (by omega), if_neg (by omega),
    if_pos (by omega), ofNat_eq lead (by omega), ofNat_eq second (by omega),
    ofNat_eq third (by omega)]

theorem utf8EncodeChar_four (hlead : leadWidth lead = 4)
    (hsecond : mayFollow lead second = true) (hthird : isContinuation third = true)
    (hfourth : isContinuation fourth = true) :
    String.utf8EncodeChar
        (Char.ofNat (((lead.toNat % 8 * 64 + payload second) * 64 + payload third) * 64
          + payload fourth)) =
      [lead, second, third, fourth] := by
  rw [leadWidth_eq] at hlead
  rw [mayFollow_iff, isContinuation_iff] at hsecond
  rw [isContinuation_iff] at hthird hfourth
  have hbounds : 240 ≤ lead.toNat ∧ lead.toNat < 245 := by grind
  rw [payload, payload, payload, utf8EncodeChar_ofNat (by omega), if_neg (by omega),
    if_neg (by omega), if_neg (by omega), ofNat_eq lead (by omega), ofNat_eq second (by omega),
    ofNat_eq third (by omega), ofNat_eq fourth (by omega)]

/-- A character is read from its own bytes only. -/
theorem utf8EncodeChar_of_decodeScalar {rest : List UInt8} {c : Char}
    (h : decodeScalar lead rest = .ok c) :
    String.utf8EncodeChar c = lead :: rest.take (leadWidth lead - 1) := by
  revert h
  fun_cases decodeScalar lead rest with
  | case1 _ hlead =>
    rintro ⟨⟩
    rw [hlead, utf8EncodeChar_one hlead]
    rfl
  | case2 _ _ hlead hsecond =>
    rintro ⟨⟩
    rw [hlead, utf8EncodeChar_two hlead hsecond]
    rfl
  | case4 _ hlead hsecond _ _ hthird =>
    rintro ⟨⟩
    rw [hlead, utf8EncodeChar_three hlead hsecond hthird]
    rfl
  | case8 _ hlead hsecond _ hthird _ _ hfourth =>
    rintro ⟨⟩
    rw [hlead, utf8EncodeChar_four hlead hsecond hthird hfourth]
    rfl
  -- The others are refusals.
  | case3 | case5 | case6 | case7 | case9 | case10 | case11 | case12 | case13 | case14 | case15 =>
    rintro ⟨⟩

/-- What is decoded is a text whose bytes these are. -/
theorem encode_of_decodeFrom {offset : Nat} {bytes : List UInt8} {chars : List Char}
    (h : decodeFrom offset bytes = .ok chars) : encode chars = bytes := by
  fun_induction decodeFrom offset bytes generalizing chars with
  | case1 =>
    cases h
    rfl
  | case2 => cases h
  | case3 offset lead rest c hscalar ih =>
    cases hmore : decodeFrom (offset + leadWidth lead) (rest.drop (leadWidth lead - 1)) with
    | error stretch =>
      rw [hmore] at h
      cases h
    | ok more =>
      rw [hmore] at h
      cases h
      rw [encode_cons, utf8EncodeChar_of_decodeScalar hscalar, ih hmore, List.cons_append,
        List.take_append_drop]

/-- The strict decoder accepts the encodings of texts and nothing else. -/
theorem decode_eq_ok_iff {bytes : List UInt8} {chars : List Char} :
    decode bytes = .ok chars ↔ encode chars = bytes := by
  constructor
  · exact encode_of_decodeFrom
  · rintro rfl
    exact decode_encode chars

/-- Bytes that the strict decoder accepts. -/
def WellFormed (bytes : List UInt8) : Prop := ∃ chars, decode bytes = .ok chars

/-- Bytes are well formed exactly if they are the encoding of some characters. -/
theorem wellFormed_iff {bytes : List UInt8} :
    WellFormed bytes ↔ ∃ chars, encode chars = bytes :=
  exists_congr fun _ => decode_eq_ok_iff

/-- The lead byte tells where the bytes of a character end. -/
theorem eq_of_prefix {c other : Char}
    (h : String.utf8EncodeChar c <+: String.utf8EncodeChar other) : c = other := by
  obtain ⟨rest, hrest⟩ := h
  obtain ⟨lead, tail, hbytes, hsequence⟩ := exists_isSequence c
  obtain ⟨lead', tail', hbytes', hsequence'⟩ := exists_isSequence other
  rw [hbytes, hbytes', List.cons_append, List.cons.injEq] at hrest
  obtain ⟨rfl, rfl⟩ := hrest
  have hother := hsequence'.decodes []
  rw [List.append_nil, hsequence.decodes] at hother
  exact Except.ok.inj hother

/-- The bytes of all characters. -/
def code : PrefixCode Char UInt8 where
  word := String.utf8EncodeChar
  ne_nil _ := String.utf8EncodeChar_ne_nil
  eq_of_prefix := eq_of_prefix

end Scanning.Utf8
