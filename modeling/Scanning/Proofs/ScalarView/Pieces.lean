import Scanning.ScalarView
import Scanning.Proofs.Layout
import Scanning.Proofs.Utf8.Decoding

namespace Scanning.ScalarView

open Utf8

variable {view : ScalarView} {i j k : Nat} {front back : List Char}

/-- A piece of the bytes decodes to some characters exactly if it is their encoding. -/
theorem slice_eq_ok_iff {chars : List Char} :
    view.slice i j = .ok chars ↔ encode chars = (view.data.toList.take j).drop i := by
  rw [slice, sliceBetween_natCast, ← decode_eq_ok_iff]
  cases decode ((view.data.toList.take j).drop i) <;> simp

/-- There is nothing between an index and itself, whatever the index means. -/
theorem slice_self (view : ScalarView) (index : Int) : view.slice index index = .ok [] := by
  have hempty : sliceBetween view.data index index = [] := by simp [sliceBetween]
  have hdecode : decode [] = .ok [] := decode_encode []
  rw [slice, hempty]
  simp only [hdecode]

/-- Two pieces that decode decode together, the one behind the other. -/
theorem slice_append (hij : i ≤ j) (hjk : j ≤ k) (hfront : view.slice i j = .ok front)
    (hback : view.slice j k = .ok back) : view.slice i k = .ok (front ++ back) := by
  rw [slice_eq_ok_iff] at *
  have hbetween : (view.data.toList.take k).take j = view.data.toList.take j := by
    rw [List.take_take, Nat.min_eq_left hjk]
  rw [encode_append, hfront, hback, ← hbetween, List.drop_take]
  generalize view.data.toList.take k = bytes
  obtain ⟨more, rfl⟩ := Nat.exists_eq_add_of_le hij
  rw [Nat.add_sub_cancel_left, ← List.drop_drop, List.take_append_drop]

/-- The element at an index goes as far as the next index. -/
theorem textAt_eq_slice {index next : Int} (h : view.after index = .ok next) :
    view.textAt index = view.slice index next := by
  obtain ⟨n, hwidth, rfl⟩ := after_eq_ok h
  simp only [textAt, hwidth, bind, Except.bind]

/-- A step begins at a byte. -/
theorem nonneg_of_after {index next : Int} (h : view.after index = .ok next) : 0 ≤ index := by
  unfold after at h
  split at h
  · omega
  · cases h

end Scanning.ScalarView
