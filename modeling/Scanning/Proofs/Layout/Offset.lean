import Scanning.Proofs.ScalarView.Layout

namespace Scanning

open IndexSpace Utf8

variable {σ ρ ε : Type} [IndexSpace σ ε] [IndexSpace ρ ε]

/-- How moves by a number of elements end over two subjects with the same elements: both are stopped
by the limit, both would leave the subject, or both arrive at the same element. -/
inductive EndsAlike (size : Nat) (place place' : Nat → Nat) :
    Except Fault (Option Int) → Except Fault (Option Int) → Prop where
  | limited : EndsAlike size place place' (.ok none) (.ok none)
  | outside (cause cause' : OutOfBounds) :
      EndsAlike size place place' (.error (.outOfBounds cause)) (.error (.outOfBounds cause'))
  | arrived {k : Nat} (hk : k ≤ size) :
      EndsAlike size place place' (.ok (some (place k : Int))) (.ok (some (place' k : Int)))

namespace Layout

variable {subject : σ} {subject' : ρ} {elements : List ε} {place place' : Nat → Nat}
  {k limit : Nat} {distance middle target a b : Int}

/-- A move arrives exactly if there is an element that far away, or the end is. -/
theorem offset_eq_ok_iff (layout : Layout subject elements place) (hk : k ≤ elements.length) :
    offset subject (place k) distance = .ok target ↔
      ∃ j : Nat, j ≤ elements.length ∧ (j : Int) = k + distance ∧ target = place j := by
  by_cases hinside : 0 ≤ k + distance ∧ k + distance ≤ elements.length
  · obtain ⟨j, hj⟩ := Int.eq_ofNat_of_zero_le hinside.1
    obtain rfl : distance = j - k := by omega
    rw [layout.offset_place k j hk (by omega)]
    constructor
    · rintro ⟨⟩
      exact ⟨j, by omega, by omega, rfl⟩
    · rintro ⟨i, hi, hcount, rfl⟩
      obtain rfl : i = j := by omega
      rfl
  · obtain ⟨cause, houtside⟩ := layout.offset_outside k hk distance (by omega)
    rw [houtside]
    constructor
    · rintro ⟨⟩
    · rintro ⟨j, hj, hcount, rfl⟩
      omega

/-- With a limit it arrives there unless it crosses the limit. -/
theorem offsetLimited_eq_ok_iff (layout : Layout subject elements place)
    (hk : k ≤ elements.length) (hlimit : limit ≤ elements.length) :
    offsetLimited subject (place k) distance (place limit) = .ok (some target) ↔
      ¬ Crosses k distance limit ∧ offset subject (place k) distance = .ok target := by
  rw [layout.offsetLimited_place k limit hk hlimit]
  by_cases hcrosses : Crosses k distance limit
  · rw [if_pos hcrosses]
    simp [hcrosses]
  · rw [if_neg hcrosses]
    cases offset subject (place k) distance <;> simp [hcrosses, Functor.map, Except.map]

/-- Two moves by numbers of elements, one after the other, are one move by the sum, whatever their
signs. -/
theorem offset_add (layout : Layout subject elements place) (hk : k ≤ elements.length)
    (ha : offset subject (place k) a = .ok middle) (hb : offset subject middle b = .ok target) :
    offset subject (place k) (a + b) = .ok target := by
  obtain ⟨i, hi, hcount, rfl⟩ := (layout.offset_eq_ok_iff hk).1 ha
  obtain ⟨j, hj, hcount', rfl⟩ := (layout.offset_eq_ok_iff hi).1 hb
  exact (layout.offset_eq_ok_iff hk).2 ⟨j, hj, by omega, rfl⟩

/-- A limit that neither of two moves crosses is not crossed by the move that they are together. -/
theorem offsetLimited_add (layout : Layout subject elements place) (hk : k ≤ elements.length)
    (hlimit : limit ≤ elements.length)
    (ha : offsetLimited subject (place k) a (place limit) = .ok (some middle))
    (hb : offsetLimited subject middle b (place limit) = .ok (some target)) :
    offsetLimited subject (place k) (a + b) (place limit) = .ok (some target) := by
  obtain ⟨hcrosses, ha⟩ := (layout.offsetLimited_eq_ok_iff hk hlimit).1 ha
  obtain ⟨i, hi, hcount, rfl⟩ := (layout.offset_eq_ok_iff hk).1 ha
  obtain ⟨hcrosses', hb⟩ := (layout.offsetLimited_eq_ok_iff hi hlimit).1 hb
  refine (layout.offsetLimited_eq_ok_iff hk hlimit).2 ⟨?_, layout.offset_add hk ha hb⟩
  unfold Crosses at *
  omega

/-- Over two subjects with the same elements a move by a number of elements ends alike. -/
theorem endsAlike_offset (layout : Layout subject elements place)
    (layout' : Layout subject' elements place') (hk : k ≤ elements.length) (distance : Int) :
    EndsAlike elements.length place place' (some <$> offset subject (place k) distance)
      (some <$> offset subject' (place' k) distance) := by
  by_cases hinside : 0 ≤ k + distance ∧ k + distance ≤ elements.length
  · obtain ⟨j, hj⟩ := Int.eq_ofNat_of_zero_le hinside.1
    obtain rfl : distance = j - k := by omega
    rw [layout.offset_place k j hk (by omega), layout'.offset_place k j hk (by omega)]
    exact .arrived (by omega)
  · obtain ⟨cause, houtside⟩ := layout.offset_outside k hk distance (by omega)
    obtain ⟨cause', houtside'⟩ := layout'.offset_outside k hk distance (by omega)
    rw [houtside, houtside']
    exact .outside cause cause'

/-- With a limit too, at the place of the same element in both subjects, a move ends alike. -/
theorem endsAlike_offsetLimited (layout : Layout subject elements place)
    (layout' : Layout subject' elements place') (hk : k ≤ elements.length)
    (hlimit : limit ≤ elements.length) (distance : Int) :
    EndsAlike elements.length place place'
      (offsetLimited subject (place k) distance (place limit))
      (offsetLimited subject' (place' k) distance (place' limit)) := by
  rw [layout.offsetLimited_place k limit hk hlimit, layout'.offsetLimited_place k limit hk hlimit]
  split
  · exact .limited
  · exact layout.endsAlike_offset layout' hk distance

end Layout

namespace ScalarView

/-- Over the encoding of a text, moves from the offset of a character end as they do over the text
itself, with a limit or without one, and two of them one after the other are one. -/
theorem offsets_endAlike (text : String) {i limit : Nat} (hi : i ≤ text.length)
    (hlimit : limit ≤ text.length) (distance : Int) :
    EndsAlike text.length (byteOffset text.toList) id
      (offsetLimited (ofText text) (byteOffset text.toList i) distance
        (byteOffset text.toList limit))
      (offsetLimited (Sequence.ofText text) i distance limit) ∧
    EndsAlike text.length (byteOffset text.toList) id
      (some <$> IndexSpace.offset (ofText text) (byteOffset text.toList i) distance)
      (some <$> IndexSpace.offset (Sequence.ofText text) i distance) ∧
    ∀ a b middle target : Int,
      (IndexSpace.offset (ofText text) (byteOffset text.toList i) a = .ok middle →
        IndexSpace.offset (ofText text) middle b = .ok target →
        IndexSpace.offset (ofText text) (byteOffset text.toList i) (a + b) = .ok target) ∧
      (offsetLimited (ofText text) (byteOffset text.toList i) a
          (byteOffset text.toList limit) = .ok (some middle) →
        offsetLimited (ofText text) middle b (byteOffset text.toList limit) = .ok (some target) →
        offsetLimited (ofText text) (byteOffset text.toList i) (a + b)
          (byteOffset text.toList limit) = .ok (some target)) := by
  have hlength : text.toList.length = text.length := String.length_toList
  rw [← hlength] at hi hlimit ⊢
  have layout : Layout (ofText text) text.toList (byteOffset text.toList) :=
    layout_encoding text.toList
  have layout' : Layout (Sequence.ofText text) text.toList id := (Sequence.ofText text).layout
  refine ⟨layout.endsAlike_offsetLimited layout' hi hlimit distance,
    layout.endsAlike_offset layout' hi distance, ?_⟩
  intro a b middle target
  exact ⟨layout.offset_add hi, layout.offsetLimited_add hi hlimit⟩

/-- Two characters back and one forward from the second place of aé!, with the limit after the
first. -/
theorem offsets_endAlike_toAndFro :
    2 ≤ "aé!".length ∧ 1 ≤ "aé!".length ∧
    EndsAlike "aé!".length (byteOffset "aé!".toList) id
      (offsetLimited (ofText "aé!") (byteOffset "aé!".toList 2) (-2) (byteOffset "aé!".toList 1))
      (offsetLimited (Sequence.ofText "aé!") (2 : Nat) (-2) (1 : Nat)) ∧
    EndsAlike "aé!".length (byteOffset "aé!".toList) id
      (some <$> IndexSpace.offset (ofText "aé!") (byteOffset "aé!".toList 2) (-2))
      (some <$> IndexSpace.offset (Sequence.ofText "aé!") (2 : Nat) (-2)) ∧
    IndexSpace.offset (ofText "aé!") (byteOffset "aé!".toList 2) (-2 + 1) =
      .ok (byteOffset "aé!".toList 1) := by
  have hi : 2 ≤ "aé!".length := by decide
  have hlimit : 1 ≤ "aé!".length := by decide
  have halike := offsets_endAlike "aé!" hi hlimit (-2)
  refine ⟨hi, hlimit, halike.1, halike.2.1, ?_⟩
  exact (halike.2.2 (-2) 1 0 _).1 rfl rfl

end ScalarView

end Scanning
