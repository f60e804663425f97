import Scanning.Proofs.Layout.Broken
import Scanning.Proofs.ScalarView.Encoded

namespace Scanning.ScalarView

open Utf8

variable {data rest : List UInt8} {chars : List Char} {k : Nat}

/-- In front of the rest, the bytes from the offset of a character on are its own and then those of
the next ones. -/
theorem drop_byteOffset_append (htext : data = encode chars ++ rest) (hk : k < chars.length) :
    data.drop (byteOffset chars k) =
      String.utf8EncodeChar chars[k] ++ (encode (chars.drop (k + 1)) ++ rest) := by
  rw [htext, List.drop_append_of_le_length (byteOffset_le_size chars k), drop_byteOffset hk,
    List.append_assoc]

/-- The characters in front of the rest are found at their offsets. -/
theorem begins_ofBytes (htext : data = encode chars ++ rest) :
    Begins (ofBytes data) chars (byteOffset chars) where
  place_ne_end k hk := by
    have hlt := lt_length_of_character (drop_byteOffset_append htext hk)
    have hsize : IndexSpace.endIndex (ofBytes data) = data.length := size_ofBytes data
    omega
  after_place k hk := by
    rw [byteOffset_succ hk]
    exact after_eq (drop_byteOffset_append htext hk)
  elementAt_place k hk := by
    change (ofBytes data).elementAt _ = _
    simp only [elementAt, textAt_eq (drop_byteOffset_append htext hk), bind, Except.bind, pure,
      Except.pure]
  slice_place i j _ _ := by
    refine slice_eq ?_
    rw [htext, List.take_append_of_le_length (byteOffset_le_size chars j), drop_take_encode]

/-- Behind the longest well-formed part the next element is malformed. -/
theorem exists_broken_ofBytes (hfront : code.Front data chars rest) (hrest : rest ≠ []) :
    ∃ stretch, Broken (ofBytes data) chars (byteOffset chars) (.malformed stretch) := by
  have hstop : byteOffset chars chars.length < data.length := by
    rw [byteOffset_length]
    exact hfront.stop_lt hrest
  have hdrop : data.drop (byteOffset chars chars.length) = rest := by
    rw [byteOffset_length, hfront.text_eq]
    exact List.drop_left
  obtain ⟨stretch, helement⟩ := textAt_malformed hstop (hdrop ▸ hfront.stops)
  refine ⟨stretch, begins_ofBytes hfront.text_eq, ?_, ?_⟩
  · have hsize : IndexSpace.endIndex (ofBytes data) = data.length := size_ofBytes data
    omega
  · change (ofBytes data).elementAt _ = _
    simp only [elementAt, helement, bind, Except.bind]

end Scanning.ScalarView
