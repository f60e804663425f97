import Scanning.Proofs.Move.Bounds
import Scanning.Proofs.Tail.Basic

namespace Scanning

open IndexSpace

variable {ε : Type} {start : Nat} {index index' low low' high high' : Int}

theorem toList_extract_from {α : Type} (elements : Array α) (start : Nat) :
    (elements.extract start).toList = elements.toList.drop start := by
  rw [Array.toList_extract, List.extract_eq_take_drop, ← Array.length_toList, ← List.length_drop,
    List.take_length]

/-- What an index finds. -/
theorem resolveIndex_bind_natCast {α : Type} (elements : Array α) (k : Nat) :
    (resolveIndex elements.size k).bind (elements[·]?) = elements[k]? := by
  by_cases hk : k < elements.size
  · rw [resolveIndex_natCast hk]
    rfl
  · rw [resolveIndex, if_neg (show ¬ (k : Int) < 0 by omega), if_neg (by omega),
      Array.getElem?_eq_none (by omega)]
    rfl

/-- An index from the end of the elements may resolve in front of the tail, but not one that has a
counterpart: it gives the same element. -/
theorem resolveIndex_bind_extract {α : Type} (elements : Array α) (h : Behind start index index') :
    (resolveIndex elements.size index).bind (elements[·]?) =
      (resolveIndex (elements.extract start).size index').bind ((elements.extract start)[·]?) := by
  obtain ⟨hpos, rfl⟩ := h
  obtain ⟨k, rfl⟩ := Int.eq_ofNat_of_zero_le hpos
  have hindex : (start : Int) + (k : Nat) = (start + k : Nat) := rfl
  rw [hindex, resolveIndex_bind_natCast, resolveIndex_bind_natCast, ← Array.getElem?_toList,
    ← Array.getElem?_toList, toList_extract_from, List.getElem?_drop]

/-- Between corresponding indices stand the same elements. -/
theorem sliceBetween_extract {α : Type} (elements : Array α) (hlow : Behind start low low')
    (hhigh : Behind start high high') :
    sliceBetween (elements.extract start) low' high' = sliceBetween elements low high := by
  obtain ⟨hpos, rfl⟩ := hlow
  obtain ⟨i, rfl⟩ := Int.eq_ofNat_of_zero_le hpos
  obtain ⟨hpos, rfl⟩ := hhigh
  obtain ⟨j, rfl⟩ := Int.eq_ofNat_of_zero_le hpos
  have hi : (start : Int) + (i : Nat) = (start + i : Nat) := rfl
  have hj : (start : Int) + (j : Nat) = (start + j : Nat) := rfl
  rw [hi, hj, sliceBetween_natCast, sliceBetween_natCast, toList_extract_from, List.take_drop,
    List.drop_drop]

namespace Sequence

def cut (start : Nat) (sequence : Sequence ε) : Sequence ε :=
  { sequence with elements := sequence.elements.extract start }

theorem size_cut (sequence : Sequence ε) (start : Nat) :
    (sequence.cut start).elements.size = sequence.elements.size - start := by
  rw [cut, Array.size_extract, Nat.min_self]

theorem elementAt_cut (sequence : Sequence ε) (h : Behind start index index') :
    (sequence.cut start).elementAt index' = sequence.elementAt index := by
  rw [elementAt, elementAt, resolveIndex_bind_extract sequence.elements h]
  rfl

/-- The same distance leads to corresponding places, as long as it does not lead in front of the
tail. -/
theorem offset_cut (sequence : Sequence ε) (hstart : start ≤ sequence.elements.size)
    (h : Behind start index index') {distance : Int}
    (hlands : ∀ {target}, sequence.offset index distance = .ok target → start ≤ target) :
    Both (Behind start) (sequence.offset index distance)
      ((sequence.cut start).offset index' distance) := by
  have hsize := sequence.size_cut start
  obtain ⟨-, rfl⟩ := h
  unfold offset at hlands ⊢
  by_cases hinside : 0 ≤ start + index' + distance ∧
      start + index' + distance ≤ sequence.elements.size
  · rw [if_pos hinside] at hlands ⊢
    have hlands := hlands rfl
    rw [if_pos ⟨by omega, by omega⟩]
    exact .ok ⟨by omega, by omega⟩
  · rw [if_neg hinside, if_neg (by omega)]
    exact .error ⟨rfl, id⟩

theorem tail_cut (sequence : Sequence ε) (hstart : start ≤ sequence.elements.size) :
    Tail sequence (sequence.cut start) start where
  endIndex_eq := by
    change sequence.elements.size = start + (sequence.cut start).elements.size
    rw [size_cut]
    omega
  after {index index'} h := by
    have hsize := sequence.size_cut start
    obtain ⟨hpos, rfl⟩ := h
    change Both (Behind start) (sequence.after _) ((sequence.cut start).after _)
    rw [after, after]
    by_cases hinside : start + index' < sequence.elements.size
    · rw [if_pos ⟨by omega, hinside⟩, if_pos ⟨hpos, by omega⟩]
      exact .ok ⟨by omega, by omega⟩
    · rw [if_neg (by omega), if_neg (by omega)]
      exact .error ⟨rfl, id⟩
  elementAt {index index'} h := by
    change Both Eq (sequence.elementAt index) ((sequence.cut start).elementAt index')
    rw [sequence.elementAt_cut h]
    exact .refl sequence.plain.elementAt
  slice hlow hhigh := .ok (sliceBetween_extract sequence.elements hlow hhigh).symm
  offset h _ hlands := sequence.offset_cut hstart h hlands
  offsetLimited {index index'} h count := by
    have hsize := sequence.size_cut start
    change Both (Option.Rel (Behind start))
      (sequence.offsetLimited index count sequence.elements.size)
      ((sequence.cut start).offsetLimited index' count (sequence.cut start).elements.size)
    have hoffset : Both (Behind start) (sequence.offset index count)
        ((sequence.cut start).offset index' count) := by
      apply sequence.offset_cut hstart h
      intro target htarget
      obtain ⟨hpos, rfl⟩ := h
      unfold offset at htarget
      split at htarget
      · cases htarget
        omega
      · cases htarget
    obtain ⟨hpos, rfl⟩ := h
    rw [offsetLimited, offsetLimited]
    by_cases hmet : (start : Int) + index' ≤ sequence.elements.size ∧
        (sequence.elements.size : Int) < start + index' + count
    · rw [if_pos ⟨by omega, hmet⟩, if_pos ⟨by omega, by omega, by omega⟩]
      exact .ok .none
    · rw [if_neg (by omega), if_neg (by omega), if_neg (by omega), if_neg (by omega)]
      exact hoffset.map .some

end Sequence

namespace ScalarView

def cut (start : Nat) (view : ScalarView) : ScalarView := ⟨view.data.extract start⟩

variable (view : ScalarView)

theorem size_cut (start : Nat) : (view.cut start).data.size = view.data.size - start := by
  rw [cut, Array.size_extract, Nat.min_self]

theorem byteAt_cut (h : Behind start index index') :
    (view.cut start).byteAt index' = view.byteAt index := by
  rw [byteAt, byteAt, resolveIndex_bind_extract view.data h]
  rfl

theorem slice_cut (hlow : Behind start low low') (hhigh : Behind start high high') :
    (view.cut start).slice low' high' = view.slice low high := by
  rw [slice, slice, cut, sliceBetween_extract view.data hlow hhigh]

theorem both_width (hstart : start ≤ view.data.size) (h : Behind start index index') :
    Both Eq (view.width index) ((view.cut start).width index') := by
  have hsize := view.size_cut start
  rw [width, width, view.byteAt_cut h]
  refine (Both.refl fun {fault} hbyte => ?_).bind ?_
  · unfold byteAt at hbyte
    split at hbyte
    · cases hbyte
    · cases hbyte
      exact id
  rintro lead _ rfl
  obtain ⟨hpos, rfl⟩ := h
  dsimp only
  split
  · exact .error ⟨rfl, id⟩
  by_cases hlong : (start : Int) + index' + Utf8.leadWidth lead > view.data.size
  · rw [if_pos hlong, if_pos (by omega)]
    exact .error ⟨rfl, id⟩
  · rw [if_neg hlong, if_neg (by omega)]
    exact .ok rfl

theorem both_slice (hlow : Behind start low low') (hhigh : Behind start high high') :
    Both Eq (view.slice low high) ((view.cut start).slice low' high') := by
  rw [view.slice_cut hlow hhigh]
  exact .refl not_isLexical_slice

/-- The character at corresponding indices is the same, or refused alike. -/
theorem both_textAt (hstart : start ≤ view.data.size) (h : Behind start index index') :
    Both Eq (view.textAt index) ((view.cut start).textAt index') := by
  refine (view.both_width hstart h).bind ?_
  rintro width _ rfl
  obtain ⟨hpos, rfl⟩ := h
  exact view.both_slice ⟨hpos, rfl⟩ ⟨by omega, by omega⟩

/-- The places behind the character at corresponding indices correspond. -/
theorem both_after (hstart : start ≤ view.data.size) (h : Behind start index index') :
    Both (Behind start) (view.after index) ((view.cut start).after index') := by
  have hsize := view.size_cut start
  have hwidth := view.both_width hstart h
  obtain ⟨hpos, rfl⟩ := h
  rw [after, after]
  by_cases hinside : start + index' < view.data.size
  · rw [if_pos ⟨by omega, hinside⟩, if_pos ⟨hpos, by omega⟩]
    have hstep : Both (fun width width' : Int => width = width' ∧ 0 ≤ width)
        (do return (← view.width (start + index')))
        (do return (← (view.cut start).width index')) := by
      refine hwidth.bind ?_
      rintro width _ rfl
      exact .ok ⟨rfl, Int.natCast_nonneg width⟩
    refine hstep.map ?_
    rintro width _ ⟨rfl, hpositive⟩
    exact ⟨by omega, by omega⟩
  · rw [if_neg (by omega), if_neg (by omega)]
    exact .error ⟨rfl, id⟩

/-- A walk forward goes as far in the tail, whatever limit it has there. -/
theorem both_forward (hstart : start ≤ view.data.size) {limit limit' : Option Int}
    (hlimit : ∀ {index index'}, Behind start index index' →
      (limit = some index ↔ limit' = some index'))
    (steps : Nat) (h : Behind start index index') :
    Both (Option.Rel (Behind start)) (view.forward limit steps index)
      ((view.cut start).forward limit' steps index') := by
  induction steps generalizing index index' with
  | zero => exact .ok (.some h)
  | succ steps ih =>
    by_cases hmet : limit = some index
    · obtain rfl := (hlimit h).1 hmet
      subst hmet
      rw [forward_met, forward_met]
      exact .ok .none
    · rw [forward_succ steps hmet, forward_succ steps fun hmet' => hmet ((hlimit h).2 hmet')]
      exact (view.both_after hstart h).bind ih

/-- The byte at a number. -/
theorem byteAt_natCast {k : Nat} (hk : k < view.data.size) :
    view.byteAt k = .ok view.data[k] := by
  rw [byteAt, resolveIndex_bind_natCast, Array.getElem?_eq_getElem hk]

/-- One byte is looked at, and if it is a continuation byte those before it are. -/
theorem startBelow_succ {k : Nat} (hk : k + 1 < view.data.size) :
    view.startBelow (k + 1) =
      if Utf8.isContinuation view.data[k + 1] then view.startBelow k else .ok (k + 1) := by
  rw [startBelow, view.byteAt_natCast hk]
  rfl

/-- From inside the view the walk back ends at a byte that is no continuation byte, or at the
first. -/
theorem exists_startBelow_le {k : Nat} (hk : k < view.data.size) :
    ∃ first ≤ k, view.startBelow k = .ok first ∧
      (first = 0 ∨ ∀ byte ∈ view.data[first]?, Utf8.isContinuation byte = false) := by
  induction k with
  | zero => exact ⟨0, Nat.le_refl 0, rfl, .inl rfl⟩
  | succ k ih =>
    rw [view.startBelow_succ hk]
    split
    · obtain ⟨first, hle, hfirst, hhalts⟩ := ih (by omega)
      exact ⟨first, by omega, hfirst, hhalts⟩
    · refine ⟨k + 1, Nat.le_refl _, rfl, .inr fun byte hbyte => ?_⟩
      rw [Array.getElem?_eq_getElem hk] at hbyte
      cases hbyte
      exact Bool.eq_false_iff.2 ‹_›

/-- Walking back over continuation bytes stops in the tail where it stops in the view, but at the
start of the tail at the latest. -/
theorem exists_startBelow {k : Nat} (hk : start + k < view.data.size) :
    ∃ first first', view.startBelow (start + k) = .ok first ∧
      (view.cut start).startBelow k = .ok first' ∧
      (first = start + first' ∨ first < start ∧ first' = 0) := by
  induction k with
  | zero =>
    obtain ⟨first, hle, hfirst, -⟩ := view.exists_startBelow_le hk
    exact ⟨first, 0, hfirst, rfl, by omega⟩
  | succ k ih =>
    have hk' : k + 1 < (view.cut start).data.size := by
      rw [view.size_cut]
      omega
    have hbyte : (view.cut start).data[k + 1] = view.data[start + k + 1] := by
      simp [cut, Nat.add_assoc]
    have hstep : view.startBelow (start + (k + 1)) =
        if Utf8.isContinuation view.data[start + k + 1] then view.startBelow (start + k)
        else .ok (start + k + 1) := view.startBelow_succ hk
    rw [hstep, (view.cut start).startBelow_succ hk', hbyte]
    split
    · exact ih (by omega)
    · exact ⟨_, _, rfl, rfl, .inl (Nat.add_assoc ..)⟩

theorem before_natCast (k : Nat) : view.before (k + 1) = (fun first => (first : Int)) <$>
    view.startBelow k := by
  rw [before, Int.add_sub_cancel, Int.toNat_natCast]

/-- Walking back from corresponding indices leads to corresponding places, or in front of the tail
in the subject and to its start in the tail. -/
theorem exists_before (h : Behind start index index') (hpos : 0 < index')
    (hend : index ≤ view.data.size) :
    ∃ first first' : Int, view.before index = .ok first ∧
      (view.cut start).before index' = .ok first' ∧
      (Behind start first first' ∨ first < start ∧ first' = 0) := by
  obtain ⟨-, rfl⟩ := h
  obtain ⟨k, rfl⟩ : ∃ k : Nat, index' = k + 1 := ⟨(index' - 1).toNat, by omega⟩
  have hk : start + k < view.data.size := by omega
  obtain ⟨first, first', hfirst, hfirst', hplace⟩ := view.exists_startBelow hk
  have hindex : (start : Int) + (k + 1) = (start + k : Nat) + 1 := by omega
  refine ⟨first, first', ?_, ?_, ?_⟩
  · rw [hindex, before_natCast, hfirst]
    rfl
  · rw [before_natCast, hfirst']
    rfl
  · obtain rfl | ⟨hless, rfl⟩ := hplace
    · exact .inl ⟨Int.natCast_nonneg _, rfl⟩
    · exact .inr ⟨Int.ofNat_lt.2 hless, rfl⟩

/-- Within a view, a walk back fails only in front of the first byte. -/
theorem fault_of_backward {steps : Nat} {fault : Fault} (hend : index ≤ view.data.size)
    (h : view.backward none steps index = .error fault) : fault = .outOfBounds .beforeStart := by
  induction steps generalizing index with
  | zero => cases h
  | succ steps ih =>
    by_cases hfirst : index ≤ 0
    · rw [backward_start steps (by simp) hfirst] at h
      cases h
      rfl
    · rw [backward_succ steps (by simp) (by omega)] at h
      obtain ⟨k, rfl⟩ : ∃ k : Nat, index = k + 1 := ⟨(index - 1).toNat, by omega⟩
      obtain ⟨first, hle, hstart, -⟩ := view.exists_startBelow_le (show k < view.data.size by omega)
      rw [before_natCast, hstart] at h
      exact ih (show (first : Int) ≤ view.data.size by omega) h

/-- Each step back leads at least one byte back. -/
theorem add_le_of_backward {steps : Nat} {target : Int}
    (h : view.backward none steps index = .ok (some target)) : target + steps ≤ index := by
  induction steps generalizing index with
  | zero =>
    cases h
    exact Int.le_of_eq (Int.add_zero _)
  | succ steps ih =>
    by_cases hfirst : index ≤ 0
    · rw [backward_start steps (by simp) hfirst] at h
      cases h
    · rw [backward_succ steps (by simp) (by omega)] at h
      obtain ⟨previous, hbefore, h⟩ := Fault.bind_eq_ok.1 h
      have hprevious := before_lt (by omega) hbefore
      have hle := ih h
      omega

/-- A walk back over more steps than there are bytes in the tail fails if it does not arrive in front
of the tail. -/
theorem backward_of_lt {steps : Nat} (hfront : index < start + steps) (hend : index ≤ view.data.size)
    (hlands : ∀ {target}, view.backward none steps index = .ok (some target) → start ≤ target) :
    view.backward none steps index = .error (.outOfBounds .beforeStart) := by
  cases hwalk : view.backward none steps index with
  | error fault => rw [view.fault_of_backward hend hwalk]
  | ok found =>
    cases found with
    | none => exact absurd hwalk (backward_ne_none steps)
    | some target =>
      have hle := view.add_le_of_backward hwalk
      have hlands := hlands hwalk
      omega

/-- A walk back that does not arrive in front of the tail goes as far in the tail. -/
theorem both_backward {steps : Nat} (h : Behind start index index') (hend : index ≤ view.data.size)
    (hlands : ∀ {target}, view.backward none steps index = .ok (some target) → start ≤ target) :
    Both (Option.Rel (Behind start)) (view.backward none steps index)
      ((view.cut start).backward none steps index') := by
  induction steps generalizing index index' with
  | zero => exact .ok (.some h)
  | succ steps ih =>
    by_cases hpos : 0 < index'
    · obtain ⟨first, first', hbefore, hbefore', hplace⟩ := view.exists_before h hpos hend
      have hindex : 0 < index := by
        obtain ⟨-, rfl⟩ := h
        omega
      have hlt := before_lt hindex hbefore
      have hstep : view.backward none (steps + 1) index = view.backward none steps first := by
        rw [backward_succ steps (by simp) hindex, hbefore]
        rfl
      have hstep' : (view.cut start).backward none (steps + 1) index' =
          (view.cut start).backward none steps first' := by
        rw [backward_succ steps (by simp) hpos, hbefore']
        rfl
      rw [hstep] at hlands
      rw [hstep, hstep']
      obtain hplace | ⟨hfront, rfl⟩ := hplace
      · exact ih hplace (by omega) hlands
      · have hfails := view.backward_of_lt (by omega) (by omega) hlands
        cases steps with
        | zero => cases hfails
        | succ steps =>
          rw [hfails, backward_start steps (by simp) (Int.le_refl 0)]
          exact .error ⟨rfl, id⟩
    · have hfront : index < start + (steps + 1 : Nat) := by
        obtain ⟨-, rfl⟩ := h
        omega
      rw [view.backward_of_lt hfront hend hlands, backward_start steps (by simp) (by omega)]
      exact .error ⟨rfl, id⟩

/-- What is left of some bytes without the first ones is a tail of them. -/
theorem tail_cut (hstart : start ≤ view.data.size) : Tail view (view.cut start) start where
  endIndex_eq := by
    change view.data.size = start + (view.cut start).data.size
    rw [size_cut]
    omega
  after h := view.both_after hstart h
  elementAt h := by
    refine (view.both_textAt hstart h).bind ?_
    rintro chars _ rfl
    cases chars with
    | nil => exact .error ⟨rfl, id⟩
    | cons first others => exact .ok rfl
  slice hlow hhigh := view.both_slice hlow hhigh
  offset {index index' distance} h hend hlands := by
    change Both (Behind start) (view.offset index distance) ((view.cut start).offset index' distance)
    have hwalk : Both (Option.Rel (Behind start)) (view.walk index distance none)
        ((view.cut start).walk index' distance none) := by
      rw [walk, walk]
      split
      case isTrue =>
        refine view.both_forward hstart ?_ _ h
        intro index index' _
        simp
      case isFalse hback =>
        refine view.both_backward h hend ?_
        intro target htarget
        apply hlands
        change view.offset index distance = _
        rw [offset, walk, if_neg hback, htarget]
        rfl
    refine hwalk.bind ?_
    rintro _ _ (hnext | _)
    · exact .ok hnext
    · exact .error ⟨rfl, id⟩
  offsetLimited {index index'} h count := by
    change Both (Option.Rel (Behind start)) (view.walk index count (some view.data.size))
      ((view.cut start).walk index' count (some (view.cut start).data.size))
    have hsize := view.size_cut start
    rw [walk, walk, if_pos (Int.natCast_nonneg _), if_pos (Int.natCast_nonneg _)]
    refine view.both_forward hstart ?_ _ h
    rintro index index' ⟨-, rfl⟩
    simp only [Option.some.injEq]
    omega

end ScalarView

namespace Subject

/-- What there is of a subject from an index on. -/
def cut (start : Nat) : Subject → Subject
  | text characters => text (characters.cut start)
  | bytes data => bytes (data.cut start)
  | items values => items (values.cut start)
  | scalars view => scalars (view.cut start)

theorem size_cut (subject : Subject) (start : Nat) :
    (subject.cut start).size = subject.size - start := by
  cases subject with
  | text characters => exact characters.size_cut start
  | bytes data => exact data.size_cut start
  | items values => exact values.size_cut start
  | scalars view => exact view.size_cut start

/-- Elements are put together alike over a subject and over its tail. -/
@[simp]
theorem assemble_cut (subject : Subject) (start : Nat) (elements : List Value) :
    (subject.cut start).assemble elements = subject.assemble elements := by
  cases subject with
  | text | bytes | items | scalars => rfl

/-- What is left of a subject of any kind without its first units is a tail of it. -/
theorem tail_cut {subject : Subject} (hstart : start ≤ subject.size) :
    Tail subject (subject.cut start) start := by
  cases subject with
  | text characters =>
    have h := characters.tail_cut hstart
    refine ⟨h.endIndex_eq, h.after, ?_, ?_, h.offset, h.offsetLimited⟩
    · exact fun hindex => (h.elementAt hindex).map (congrArg Value.ofChar ·)
    · exact fun hlow hhigh => (h.slice hlow hhigh).map (congrArg (List.map Value.ofChar) ·)
  | bytes data =>
    have h := data.tail_cut hstart
    refine ⟨h.endIndex_eq, h.after, ?_, ?_, h.offset, h.offsetLimited⟩
    · exact fun hindex => (h.elementAt hindex).map (congrArg Value.ofByte ·)
    · exact fun hlow hhigh => (h.slice hlow hhigh).map (congrArg (List.map Value.ofByte) ·)
  | items values =>
    have h := values.tail_cut hstart
    exact ⟨h.endIndex_eq, h.after, h.elementAt, h.slice, h.offset, h.offsetLimited⟩
  | scalars view =>
    have h := view.tail_cut hstart
    refine ⟨h.endIndex_eq, h.after, ?_, ?_, h.offset, h.offsetLimited⟩
    · exact fun hindex => (view.both_textAt hstart hindex).map
        (congrArg (fun chars => Value.text (String.ofList chars)) ·)
    · exact fun hlow hhigh => (h.slice hlow hhigh).map (congrArg (List.map Value.ofChar) ·)

end Subject

end Scanning
