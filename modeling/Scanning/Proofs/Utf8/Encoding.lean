import Scanning.Utf8

namespace Scanning.Utf8

theorem toNat_ofNat_of_lt {n : Nat} (h : n < 256) : (UInt8.ofNat n).toNat = n := by
  rw [UInt8.toNat_ofNat']
  exact Nat.mod_eq_of_lt h

/-- The announced width, read off the value of the lead byte. -/
theorem leadWidth_eq (lead : UInt8) : leadWidth lead =
    if lead.toNat < 128 then 1
    else if 194 ≤ lead.toNat ∧ lead.toNat < 224 then 2
    else if 224 ≤ lead.toNat ∧ lead.toNat < 240 then 3
    else if 240 ≤ lead.toNat ∧ lead.toNat < 245 then 4
    else 0 := by
  simp only [leadWidth, UInt8.lt_iff_toNat_lt, UInt8.le_iff_toNat_le, Bool.and_eq_true,
    decide_eq_true_eq]
  rfl

/-- The continuation bytes are those from 0x80 to 0xBF. -/
theorem isContinuation_iff (byte : UInt8) :
    isContinuation byte = true ↔ 128 ≤ byte.toNat ∧ byte.toNat < 192 := by
  simp only [isContinuation, UInt8.lt_iff_toNat_lt, UInt8.le_iff_toNat_le, Bool.and_eq_true,
    decide_eq_true_eq]
  rfl

/-- What may follow a lead byte: any continuation byte, in a range that some lead bytes narrow to
leave out overlong encodings, surrogates and code points above the last. -/
theorem mayFollow_iff (lead second : UInt8) :
    mayFollow lead second = true ↔ isContinuation second = true ∧
      (lead.toNat = 224 → 160 ≤ second.toNat) ∧ (lead.toNat = 237 → second.toNat < 160) ∧
      (lead.toNat = 240 → 144 ≤ second.toNat) ∧ (lead.toNat = 244 → second.toNat < 144) := by
  have h (n : UInt8) : (lead == n) = decide (lead.toNat = n.toNat) := by
    rw [Bool.eq_iff_iff]
    simp [UInt8.toNat_inj]
  simp only [mayFollow, h, UInt8.lt_iff_toNat_lt, UInt8.le_iff_toNat_le, Bool.and_eq_true,
    UInt8.reduceToNat, decide_eq_true_eq]
  refine and_congr_right fun _ => ?_
  split
  · simp; omega
  split
  · simp; omega
  split
  · simp; omega
  split
  · simp; omega
  · simp; omega

theorem decodeScalar_one {lead : UInt8} (rest : List UInt8) (hlead : leadWidth lead = 1) :
    decodeScalar lead rest = .ok (Char.ofNat lead.toNat) := by
  simp only [decodeScalar, hlead]

/-- A lead byte for two has five bits, and the byte after it six. -/
theorem decodeScalar_two {lead second : UInt8} (rest : List UInt8) (hlead : leadWidth lead = 2)
    (hsecond : mayFollow lead second = true) :
    decodeScalar lead (second :: rest) =
      .ok (Char.ofNat (lead.toNat % 32 * 64 + payload second)) := by
  simp only [decodeScalar, hlead, hsecond, ↓reduceIte]

/-- A lead byte for three has four bits, and the two bytes after it six each. -/
theorem decodeScalar_three {lead second third : UInt8} (rest : List UInt8)
    (hlead : leadWidth lead = 3) (hsecond : mayFollow lead second = true)
    (hthird : isContinuation third = true) :
    decodeScalar lead (second :: third :: rest) =
      .ok (Char.ofNat ((lead.toNat % 16 * 64 + payload second) * 64 + payload third)) := by
  simp only [decodeScalar, hlead, hsecond, hthird, ↓reduceIte]

/-- A lead byte for four has three bits, and the three bytes after it six each. -/
theorem decodeScalar_four {lead second third fourth : UInt8} (rest : List UInt8)
    (hlead : leadWidth lead = 4) (hsecond : mayFollow lead second = true)
    (hthird : isContinuation third = true) (hfourth : isContinuation fourth = true) :
    decodeScalar lead (second :: third :: fourth :: rest) =
      .ok (Char.ofNat (((lead.toNat % 8 * 64 + payload second) * 64 + payload third) * 64
        + payload fourth)) := by
  simp only [decodeScalar, hlead, hsecond, hthird, hfourth, ↓reduceIte]

/-- The bytes of a character: the lead byte announces how many they are, the others are
continuation bytes, and the decoder reads the character back from them. -/
structure IsSequence (c : Char) (lead : UInt8) (tail : List UInt8) : Prop where
  width : leadWidth lead = tail.length + 1
  lead_starts : isContinuation lead = false
  tail_continues : ∀ byte ∈ tail, isContinuation byte = true
  decodes : ∀ rest, decodeScalar lead (tail ++ rest) = .ok c

/-- A byte of which only the value is known, as it stands in an encoding. -/
private theorem isContinuation_ofNat {n : Nat} (h : n < 64) :
    isContinuation (UInt8.ofNat (n + 128)) = true := by
  rw [isContinuation_iff, toNat_ofNat_of_lt (by omega)]
  omega

private theorem payload_ofNat {n : Nat} (h : n < 64) : payload (UInt8.ofNat (n + 128)) = n := by
  rw [payload, toNat_ofNat_of_lt (by omega)]
  omega

private theorem not_isContinuation_ofNat {n : Nat} (h : n < 256) (hn : n < 128 ∨ 192 ≤ n) :
    isContinuation (UInt8.ofNat n) = false := by
  rw [Bool.eq_false_iff, ne_eq, isContinuation_iff, toNat_ofNat_of_lt h]
  omega

/-- The code points below 0x80 are encoded in one byte, which decodes to them. -/
private theorem isSequence_one {code : Nat} (h : code < 0x80) :
    IsSequence (Char.ofNat code) (UInt8.ofNat code) [] := by
  have hlead := toNat_ofNat_of_lt (n := code) (by omega)
  have hwidth : leadWidth (UInt8.ofNat code) = 1 := by
    rw [leadWidth_eq, hlead, if_pos h]
  refine ⟨hwidth, not_isContinuation_ofNat (by omega) (by omega), by simp, ?_⟩
  intro rest
  rw [List.nil_append, decodeScalar_one rest hwidth, hlead]

/-- The code points from 0x80 to 0x7FF are encoded in two bytes, which decode to them. -/
private theorem isSequence_two {code : Nat} (hlow : 0x80 ≤ code) (hhigh : code < 0x800) :
    IsSequence (Char.ofNat code) (UInt8.ofNat (code / 64 % 0x20 + 0xc0))
      [UInt8.ofNat (code % 64 + 128)] := by
  have hlead := toNat_ofNat_of_lt (n := code / 64 % 0x20 + 0xc0) (by omega)
  have hwidth : leadWidth (UInt8.ofNat (code / 64 % 0x20 + 0xc0)) = 2 := by
    rw [leadWidth_eq, hlead, if_neg (by omega), if_pos (by omega)]
  have hsecond := isContinuation_ofNat (n := code % 64) (by omega)
  have hfollow : mayFollow (UInt8.ofNat (code / 64 % 0x20 + 0xc0))
      (UInt8.ofNat (code % 64 + 128)) = true := by
    rw [mayFollow_iff, hlead]
    exact ⟨hsecond, by omega, by omega, by omega, by omega⟩
  refine ⟨hwidth, not_isContinuation_ofNat (by omega) (by omega),
    List.forall_mem_singleton.2 hsecond, ?_⟩
  intro rest
  rw [List.cons_append, List.nil_append, decodeScalar_two rest hwidth hfollow, hlead,
    payload_ofNat (by omega)]
  congr 2
  omega

/-- The code points from 0x800 to 0xFFFF, without the surrogates, are encoded in three bytes, which
decode to them. -/
private theorem isSequence_three {code : Nat} (hlow : 0x800 ≤ code) (hhigh : code < 0x10000)
    (hscalar : code < 0xD800 ∨ 0xDFFF < code) :
    IsSequence (Char.ofNat code) (UInt8.ofNat (code / 4096 % 0x10 + 0xe0))
      [UInt8.ofNat (code / 64 % 64 + 128), UInt8.ofNat (code % 64 + 128)] := by
  have hlead := toNat_ofNat_of_lt (n := code / 4096 % 0x10 + 0xe0) (by omega)
  have hwidth : leadWidth (UInt8.ofNat (code / 4096 % 0x10 + 0xe0)) = 3 := by
    rw [leadWidth_eq, hlead, if_neg (by omega), if_neg (by omega), if_pos (by omega)]
  have hsecond := isContinuation_ofNat (n := code / 64 % 64) (by omega)
  have hthird := isContinuation_ofNat (n := code % 64) (by omega)
  have hfollow : mayFollow (UInt8.ofNat (code / 4096 % 0x10 + 0xe0))
      (UInt8.ofNat (code / 64 % 64 + 128)) = true := by
    rw [mayFollow_iff, hlead, toNat_ofNat_of_lt (by omega)]
    exact ⟨hsecond, by omega, by omega, by omega, by omega⟩
  refine ⟨hwidth, not_isContinuation_ofNat (by omega) (by omega),
    List.forall_mem_cons.2 ⟨hsecond, List.forall_mem_singleton.2 hthird⟩, ?_⟩
  intro rest
  simp only [List.cons_append, List.nil_append]
  rw [decodeScalar_three rest hwidth hfollow hthird, hlead, payload_ofNat (by omega),
    payload_ofNat (by omega)]
  congr 2
  omega

/-- The code points from 0x10000 to 0x10FFFF are encoded in four bytes, which decode to them. -/
private theorem isSequence_four {code : Nat} (hlow : 0x10000 ≤ code) (hhigh : code < 0x110000) :
    IsSequence (Char.ofNat code) (UInt8.ofNat (code / 262144 % 0x08 + 0xf0))
      [UInt8.ofNat (code / 4096 % 64 + 128), UInt8.ofNat (code / 64 % 64 + 128),
        UInt8.ofNat (code % 64 + 128)] := by
  have hlead := toNat_ofNat_of_lt (n := code / 262144 % 0x08 + 0xf0) (by omega)
  have hwidth : leadWidth (UInt8.ofNat (code / 262144 % 0x08 + 0xf0)) = 4 := by
    rw [leadWidth_eq, hlead, if_neg (by omega), if_neg (by omega), if_neg (by omega),
      if_pos (by omega)]
  have hsecond := isContinuation_ofNat (n := code / 4096 % 64) (by omega)
  have hthird := isContinuation_ofNat (n := code / 64 % 64) (by omega)
  have hfourth := isContinuation_ofNat (n := code % 64) (by omega)
  have hfollow : mayFollow (UInt8.ofNat (code / 262144 % 0x08 + 0xf0))
      (UInt8.ofNat (code / 4096 % 64 + 128)) = true := by
    rw [mayFollow_iff, hlead, toNat_ofNat_of_lt (by omega)]
    exact ⟨hsecond, by omega, by omega, by omega, by omega⟩
  refine ⟨hwidth, not_isContinuation_ofNat (by omega) (by omega),
    List.forall_mem_cons.2 ⟨hsecond,
      List.forall_mem_cons.2 ⟨hthird, List.forall_mem_singleton.2 hfourth⟩⟩, ?_⟩
  intro rest
  simp only [List.cons_append, List.nil_append]
  rw [decodeScalar_four rest hwidth hfollow hthird hfourth, hlead, payload_ofNat (by omega),
    payload_ofNat (by omega), payload_ofNat (by omega)]
  congr 2
  omega

/-- Every character is encoded as such a sequence. No character is a surrogate, which is why the
bytes behind the lead byte ED are low enough. -/
theorem exists_isSequence (c : Char) :
    ∃ lead tail, String.utf8EncodeChar c = lead :: tail ∧ IsSequence c lead tail := by
  have hscalar : c.val.toNat < 0xD800 ∨ 0xDFFF < c.val.toNat ∧ c.val.toNat < 0x110000 := c.valid
  have hself : Char.ofNat c.val.toNat = c := Char.ofNat_toNat c
  fun_cases String.utf8EncodeChar c with
  | case1 _ hone => exact ⟨_, _, rfl, hself ▸ isSequence_one (by omega)⟩
  | case2 _ hone htwo => exact ⟨_, _, rfl, hself ▸ isSequence_two (by omega) (by omega)⟩
  | case3 _ hone htwo hthree =>
    exact ⟨_, _, rfl, hself ▸ isSequence_three (by omega) (by omega) (by omega)⟩
  | case4 _ hone htwo hthree =>
    exact ⟨_, _, rfl, hself ▸ isSequence_four (by omega) (by omega)⟩

end Scanning.Utf8
