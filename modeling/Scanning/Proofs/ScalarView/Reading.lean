import Scanning.Subject
import Scanning.Move.Basic
import Scanning.Proofs.ScalarView.Scalar

namespace Scanning

open IndexSpace Utf8

variable {data : List UInt8} {k count stop : Nat}

namespace Utf8

/-- From the byte number `k` on, that many lead bytes announce stretches of bytes, each beginning
where the one before it ends, and the last one ending at `stop`. -/
inductive Announces (data : List UInt8) : Nat → Nat → Nat → Prop where
  | done (k : Nat) : Announces data k 0 k
  | lead {k count stop : Nat} {lead : UInt8} (hlead : data[k]? = some lead)
      (hwidth : leadWidth lead ≠ 0) (hroom : k + leadWidth lead ≤ data.length)
      (hrest : Announces data (k + leadWidth lead) count stop) : Announces data k (count + 1) stop

namespace Announces

theorem le (h : Announces data k count stop) : k ≤ stop := by
  induction h with
  | done k => exact Nat.le_refl k
  | lead hlead hwidth hroom hrest ih => omega

theorem stop_le (h : Announces data k count stop) (hk : k ≤ data.length) :
    stop ≤ data.length := by
  induction h with
  | done k => exact hk
  | lead hlead hwidth hroom hrest ih => exact ih hroom

/-- Well-formed bytes hold as many characters as are announced. -/
theorem length_eq (h : Announces data k count stop) (hk : k ≤ data.length) {chars : List Char}
    (hchars : encode chars = (data.take stop).drop k) : chars.length = count := by
  induction h generalizing chars with
  | done k =>
    rw [List.drop_eq_nil_of_le (List.length_take_le k data)] at hchars
    cases chars with
    | nil => rfl
    | cons c more => simp [encode_cons] at hchars
  | @lead k count stop lead hlead hwidth hroom hrest ih =>
    have hle := hrest.le
    have hfirst : (encode chars).head? = some lead := by
      rw [hchars, List.head?_drop, List.getElem?_take_of_lt (by omega), hlead]
    cases chars with
    | nil => simp at hfirst
    | cons c more =>
      obtain ⟨first, tail, hbytes, hsequence⟩ := exists_isSequence c
      rw [encode_cons, hbytes] at hfirst
      obtain rfl : first = lead := by simpa using hfirst
      have hlength : (String.utf8EncodeChar c).length = leadWidth first := by
        rw [hbytes, List.length_cons, hsequence.width]
      rw [encode_cons] at hchars
      have hmore := drop_add_of_drop_eq hchars.symm
      rw [hlength] at hmore
      rw [List.length_cons, ih hroom hmore.symm]

end Announces

end Utf8

namespace ScalarView

/-- The width at a byte is the one that it announces. -/
theorem width_of_lead {lead : UInt8} (hlead : data[k]? = some lead) (hwidth : leadWidth lead ≠ 0)
    (hroom : k + leadWidth lead ≤ data.length) :
    (ofBytes data).width k = .ok (leadWidth lead) := by
  have hinside : ¬ (k : Int) + (leadWidth lead : Int) > (ofBytes data).data.size := by
    rw [size_ofBytes]
    omega
  simp only [width, byteAt_eq hlead, bind, Except.bind, pure, Except.pure]
  rw [if_neg hwidth, if_neg hinside]

/-- The step forward trusts the lead byte, whatever the bytes behind it are. -/
theorem after_of_lead {lead : UInt8} (hlead : data[k]? = some lead) (hwidth : leadWidth lead ≠ 0)
    (hroom : k + leadWidth lead ≤ data.length) :
    (ofBytes data).after k = .ok (k + leadWidth lead : Nat) := by
  obtain ⟨hk, -⟩ := List.getElem?_eq_some_iff.1 hlead
  rw [after, if_pos ⟨by omega, by rw [size_ofBytes]; omega⟩,
    width_of_lead hlead hwidth hroom]
  rfl

/-- There is a step only where a lead byte announces one. -/
theorem exists_lead_of_after {next : Int} (h : (ofBytes data).after k = .ok next) :
    ∃ lead, data[k]? = some lead ∧ leadWidth lead ≠ 0 ∧ k + leadWidth lead ≤ data.length := by
  have hk : k < data.length := by
    unfold after at h
    split at h
    · rw [size_ofBytes] at *
      omega
    · cases h
  have hlead : data[k]? = some data[k] := List.getElem?_eq_getElem hk
  obtain ⟨n, hwidth, -⟩ := after_eq_ok h
  obtain ⟨hpos, hroom⟩ := width_eq_ok hwidth
  rw [size_ofBytes] at hroom
  have hn : leadWidth data[k] = n := by
    simp only [width, byteAt_eq hlead, bind, Except.bind, pure, Except.pure] at hwidth
    split at hwidth
    · cases hwidth
    split at hwidth
    · cases hwidth
    · exact Except.ok.inj hwidth
  exact ⟨data[k], hlead, by omega, by omega⟩

/-- A walk of so many steps that does not meet the end goes as far as is announced. -/
theorem forward_of_announces (h : Announces data k count stop) :
    (ofBytes data).forward (some data.length) count k = .ok (some (stop : Int)) := by
  induction h with
  | done k => rfl
  | @lead k count stop lead hlead hwidth hroom hrest ih =>
    obtain ⟨hk, -⟩ := List.getElem?_eq_some_iff.1 hlead
    have hpass : ¬ some (data.length : Int) = some (k : Int) := by
      simp only [Option.some.injEq]
      omega
    rw [forward, if_neg hpass, after_of_lead hlead hwidth hroom]
    exact ih

/-- Where a walk forward arrives is where the lead bytes on its way announce. -/
theorem announces_of_forward {target : Int}
    (h : (ofBytes data).forward (some data.length) count k = .ok (some target)) :
    ∃ stop : Nat, target = stop ∧ Announces data k count stop := by
  induction count generalizing k with
  | zero =>
    cases h
    exact ⟨k, rfl, .done k⟩
  | succ count ih =>
    rw [forward] at h
    split at h
    · cases h
    cases hafter : (ofBytes data).after k with
    | error fault =>
      rw [hafter] at h
      cases h
    | ok next =>
      obtain ⟨lead, hlead, hwidth, hroom⟩ := exists_lead_of_after hafter
      rw [after_of_lead hlead hwidth hroom] at h
      obtain ⟨stop, htarget, hrest⟩ := ih h
      exact ⟨stop, htarget, .lead hlead hwidth hroom hrest⟩

end ScalarView

namespace Subject

variable {τ : Type} {memory : τ}

/-- An outcome of taking characters at the byte number `k` that is all or nothing: either that many
characters are taken and the cursor stands behind their bytes, or the cursor has not moved. -/
inductive AllOrNothing (data : List UInt8) (k count : Nat) (memory : τ) :
    EStateM.Result Fault (Standing τ) (Option (List Value)) → Prop where
  | taken {chars : List Char} (hcount : chars.length = count)
      (hbytes : encode chars <+: data.drop k) :
      AllOrNothing data k count memory
        (.ok (some (chars.map Value.ofChar)) ⟨(k + (encode chars).length : Nat), memory⟩)
  | short : AllOrNothing data k count memory (.ok none ⟨k, memory⟩)
  | refused (fault : Fault) : AllOrNothing data k count memory (.error fault ⟨k, memory⟩)

/-- What is read where the lead bytes announce enough: the announced bytes, once the cursor has
moved behind them. -/
theorem read_of_announces (h : Announces data k count stop) :
    Move.read count (ofUtf8 data) ⟨k, memory⟩ =
      match (ofUtf8 data).slice k stop with
      | .error fault => .error fault ⟨stop, memory⟩
      | .ok elements => .ok (some elements) ⟨stop, memory⟩ := by
  have hlimited : offsetLimited (ofUtf8 data) k count (endIndex (ofUtf8 data)) =
      .ok (some (stop : Int)) := by
    change (ScalarView.ofBytes data).walk k count (some data.length) = _
    rw [ScalarView.walk, if_pos (by omega), Int.toNat_natCast,
      ScalarView.forward_of_announces h]
  rw [Move.read, if_neg (by omega), hlimited]
  cases hslice : (ofUtf8 data).slice k stop with
  | error fault =>
    have hslice : IndexSpace.slice (ofUtf8 data) k stop = .error fault := hslice
    simp only [hslice]
  | ok elements =>
    have hslice : IndexSpace.slice (ofUtf8 data) k stop = .ok elements := hslice
    simp only [hslice]

/-- Where they do not, the cursor stays. -/
theorem read_of_not_announces (memory : τ) (h : ∀ stop, ¬ Announces data k count stop) :
    AllOrNothing data k count memory (Move.read count (ofUtf8 data) ⟨k, memory⟩) := by
  rw [Move.read, if_neg (by omega)]
  cases hlimited : offsetLimited (ofUtf8 data) k count (endIndex (ofUtf8 data)) with
  | error fault => exact .refused fault
  | ok found =>
    cases found with
    | none => exact .short
    | some target =>
      change (ScalarView.ofBytes data).walk k count (some data.length) = _ at hlimited
      rw [ScalarView.walk, if_pos (by omega), Int.toNat_natCast] at hlimited
      obtain ⟨stop, -, hannounces⟩ := ScalarView.announces_of_forward hlimited
      exact absurd hannounces (h stop)

/-- A stretch that is the encoding of some characters is sliced into them. -/
theorem slice_wellFormed {chars : List Char} (h : encode chars = (data.take stop).drop k) :
    (ofUtf8 data).slice k stop = .ok (chars.map Value.ofChar) :=
  congrArg (Functor.map (List.map Value.ofChar)) (ScalarView.slice_eq h.symm)

/-- A stretch that is not well-formed is refused by the decoder. -/
theorem slice_malformed (h : ¬ WellFormed ((data.take stop).drop k)) :
    ∃ stretch, (ofUtf8 data).slice k stop = .error (.malformed stretch) := by
  change ∃ stretch, List.map Value.ofChar <$> (ScalarView.ofBytes data).slice k stop = _
  rw [ScalarView.slice, sliceBetween_natCast]
  cases hdecode : decode (((ScalarView.ofBytes data).data.toList.take stop).drop k) with
  | error stretch => exact ⟨stretch, rfl⟩
  | ok chars => exact absurd ⟨chars, hdecode⟩ h

/-- A read is all or nothing exactly where the bytes that the lead bytes announce are well-formed.
Where they are not, it is refused when the cursor stands behind them already. -/
theorem read_allOrNothing_iff (data : List UInt8) {k : Nat} (hk : k ≤ data.length) (count : Nat)
    (memory : τ) :
    (AllOrNothing data k count memory (Move.read count (ofUtf8 data) ⟨k, memory⟩) ↔
      ∀ stop, Announces data k count stop → WellFormed ((data.take stop).drop k)) ∧
    ∀ stop, Announces data k count stop → ¬ WellFormed ((data.take stop).drop k) →
      k < stop ∧ ∃ stretch, Move.read count (ofUtf8 data) ⟨k, memory⟩ =
        .error (.malformed stretch) ⟨stop, memory⟩ := by
  have htorn : ∀ stop, Announces data k count stop → ¬ WellFormed ((data.take stop).drop k) →
      k < stop ∧ ∃ stretch, Move.read count (ofUtf8 data) ⟨k, memory⟩ =
        .error (.malformed stretch) ⟨stop, memory⟩ := by
    intro stop hannounces hmalformed
    have hle := hannounces.le
    have hne : k ≠ stop := by
      rintro rfl
      apply hmalformed
      rw [List.drop_eq_nil_of_le (List.length_take_le k data)]
      exact ⟨[], decode_encode []⟩
    obtain ⟨stretch, hslice⟩ := slice_malformed hmalformed
    refine ⟨by omega, stretch, ?_⟩
    rw [read_of_announces hannounces, hslice]
  refine ⟨⟨?_, ?_⟩, htorn⟩
  · intro hatomic stop hannounces
    by_cases hmalformed : WellFormed ((data.take stop).drop k)
    · exact hmalformed
    · obtain ⟨hlt, stretch, hread⟩ := htorn stop hannounces hmalformed
      rw [hread] at hatomic
      generalize hposition : (stop : Int) = position at hatomic
      cases hatomic
      omega
  · intro hwellFormed
    by_cases hannounced : ∃ stop, Announces data k count stop
    · obtain ⟨stop, hannounces⟩ := hannounced
      obtain ⟨chars, hchars⟩ := wellFormed_iff.1 (hwellFormed stop hannounces)
      have hle := hannounces.le
      have hstop := hannounces.stop_le hk
      have hpiece : encode chars <+: data.drop k := by
        rw [hchars, List.drop_take]
        exact List.take_prefix _ _
      have hlength : k + (encode chars).length = stop := by
        rw [hchars, List.length_drop, List.length_take]
        omega
      rw [read_of_announces hannounces, slice_wellFormed hchars, ← hlength]
      exact .taken (hannounces.length_eq hk hchars) hpiece
    · exact read_of_not_announces memory (not_exists.1 hannounced)

/-- One character of two bytes, read from the start. -/
theorem read_allOrNothing_iff_one :
    0 ≤ [(0xC3 : UInt8), 0xA9].length ∧
    (AllOrNothing [0xC3, 0xA9] 0 1 () (Move.read (1 : Nat) (ofUtf8 [0xC3, 0xA9]) ⟨(0 : Nat), ()⟩) ↔
      ∀ stop, Announces [0xC3, 0xA9] 0 1 stop →
        WellFormed (([0xC3, 0xA9] : List UInt8).take stop |>.drop 0)) ∧
    ∀ stop, Announces [0xC3, 0xA9] 0 1 stop →
      ¬ WellFormed (([0xC3, 0xA9] : List UInt8).take stop |>.drop 0) →
      0 < stop ∧ ∃ stretch, Move.read (1 : Nat) (ofUtf8 [0xC3, 0xA9]) ⟨(0 : Nat), ()⟩ =
        .error (.malformed stretch) ⟨stop, ()⟩ :=
  ⟨by decide, read_allOrNothing_iff _ (by decide) 1 ()⟩

/-- The lead byte E2 announces three bytes, and here the other two are no continuation of it. -/
theorem read_torn :
    ¬ AllOrNothing [0xE2, 0x28, 0x28] 0 1 ()
      (Move.read 1 (ofUtf8 [0xE2, 0x28, 0x28]) ⟨0, ()⟩) := by
  have hannounces : Announces [0xE2, 0x28, 0x28] 0 1 3 := .lead rfl (by decide) (by decide) (.done 3)
  have hdecode : decode [0xE2, 0x28, 0x28] = .error ⟨0xE2, 0, 1, .invalidContinuation⟩ := by
    rw [decode, decodeFrom]
    rfl
  have hmalformed : ¬ WellFormed ((([0xE2, 0x28, 0x28] : List UInt8).take 3).drop 0) := by
    rintro ⟨chars, hchars⟩
    cases hdecode.symm.trans hchars
  have hread : ∃ stretch, Move.read 1 (ofUtf8 [0xE2, 0x28, 0x28]) ⟨0, ()⟩ =
      .error (.malformed stretch) (⟨3, ()⟩ : Standing Unit) := by
    obtain ⟨stretch, hslice⟩ := slice_malformed hmalformed
    refine ⟨stretch, (read_of_announces hannounces).trans ?_⟩
    rw [hslice]
    rfl
  obtain ⟨stretch, hread⟩ := hread
  rw [hread]
  rintro ⟨⟩

end Subject

end Scanning
