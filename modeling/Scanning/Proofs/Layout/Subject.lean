import Scanning.Subject
import Scanning.Proofs.ScalarView.Layout

namespace Scanning

open IndexSpace Utf8

/-- A subject that is navigated like another one and presents its elements in another form is laid
out like it. -/
theorem Layout.presented {σ ρ ε ω : Type} [IndexSpace σ ε] [IndexSpace ρ ω] {subject : σ}
    {other : ρ} {elements : List ε} {place : Nat → Nat} (layout : Layout subject elements place)
    (form : ε → ω) (hend : endIndex other = endIndex subject)
    (hafter : after other = after subject) (hoffset : offset other = offset subject)
    (hlimited : offsetLimited other = offsetLimited subject)
    (helement : ∀ (k : Nat) (hk : k < elements.length),
      elementAt other (place k) = .ok (form elements[k]))
    (hslice : ∀ i j, i ≤ elements.length → j ≤ elements.length →
      slice other (place i) (place j) = .ok (((elements.take j).drop i).map form)) :
    Layout other (elements.map form) place := by
  have hlength : (elements.map form).length = elements.length := List.length_map form
  constructor
  · exact layout.place_zero
  · rw [hlength, hend, layout.place_length]
  · rw [hlength]
    exact layout.place_lt_succ
  · rw [hlength, hafter]
    exact layout.after_place
  · intro k hk
    rw [List.getElem_map]
    exact helement k (hlength ▸ hk)
  · intro i j hi hj
    rw [← List.map_take, ← List.map_drop]
    exact hslice i j (hlength ▸ hi) (hlength ▸ hj)
  · rw [hlength, hoffset]
    exact layout.offset_place
  · rw [hlength, hoffset]
    exact layout.offset_outside
  · rw [hlength, hlimited, hoffset]
    exact layout.offsetLimited_place

namespace Subject

theorem layout_characters (characters : Sequence Char) :
    Layout (text characters) (characters.elements.toList.map Value.ofChar) id := by
  refine characters.layout.presented Value.ofChar rfl rfl rfl rfl ?_ ?_
  · intro k hk
    exact congrArg (Functor.map Value.ofChar) (characters.layout.elementAt_place k hk)
  · intro i j hi hj
    exact congrArg (Functor.map (List.map Value.ofChar)) (characters.layout.slice_place i j hi hj)

theorem layout_bytes (data : Sequence UInt8) :
    Layout (bytes data) (data.elements.toList.map Value.ofByte) id := by
  refine data.layout.presented Value.ofByte rfl rfl rfl rfl ?_ ?_
  · intro k hk
    exact congrArg (Functor.map Value.ofByte) (data.layout.elementAt_place k hk)
  · intro i j hi hj
    exact congrArg (Functor.map (List.map Value.ofByte)) (data.layout.slice_place i j hi hj)

theorem layout_items (values : Sequence Value) :
    Layout (items values) values.elements.toList id := by
  rw [← List.map_id values.elements.toList]
  refine values.layout.presented id rfl rfl rfl rfl values.layout.elementAt_place ?_
  intro i j hi hj
  rw [List.map_id]
  exact values.layout.slice_place i j hi hj

/-- A text is laid out by the numbers of its characters. -/
theorem layout_text (text : String) :
    Layout (ofText text) (text.toList.map Value.ofChar) id :=
  layout_characters (Sequence.ofText text)

/-- The encoding of a text presents the same values as the text, at the byte offsets of its
characters. -/
theorem layout_scalars (text : String) :
    Layout (scalars (ScalarView.ofText text)) (text.toList.map Value.ofChar)
      (byteOffset text.toList) := by
  refine (ScalarView.layout_encoding text.toList).presented Value.ofChar rfl rfl rfl rfl ?_ ?_
  · intro k hk
    exact congrArg (Functor.map fun chars => Value.text (String.ofList chars))
      (ScalarView.textAt_encoding hk)
  · intro i j _ _
    exact congrArg (Functor.map (List.map Value.ofChar)) (ScalarView.slice_encoding i j)

end Subject

end Scanning
