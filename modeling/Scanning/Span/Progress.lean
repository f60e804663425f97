import Scanning.Span.Codec
import Scanning.Move.Progress

namespace Scanning.Span

open Move

variable {τ ε : Type}

/-- Succeeding with a width means moving by it inside the span. -/
def Moved (span : Span ε) (width start stop : Int) : Prop :=
  0 ≤ width ∧ stop = start + width ∧ stop ≤ span.items.size

/-- An unchecked step that succeeds moves by its distance. -/
theorem moved_uncheckedAdvanceBy {span : Span ε} {distance : Int} {standing standing' : Standing τ}
    (hforward : 0 ≤ distance)
    (h : uncheckedAdvanceBy distance span standing = .ok () standing') :
    Moved span distance standing.position standing'.position := by
  obtain ⟨next, hf, rfl⟩ := consume_eq_ok.1 h
  by_cases hopen : span.isOpen = true
  · simp only [length, hopen, ↓reduceIte, bind, Except.bind] at hf
    split at hf
    · obtain ⟨-, rfl⟩ := Prod.mk.inj (Except.ok.inj hf)
      exact ⟨hforward, rfl, ‹_ ∧ _›.2⟩
    · cases hf
  · simp [length, hopen, bind, Except.bind] at hf

theorem moved_read {span : Span ε} {width : Int} {standing standing' : Standing τ}
    {window : Window} (h : read width span standing = .ok (some window) standing') :
    Moved span width standing.position standing'.position := by
  unfold read at h
  split at h
  · cases h
  obtain ⟨start, _, hstart, h⟩ := bind_eq_ok.1 h
  obtain ⟨-, rfl⟩ := look_eq_ok.1 hstart
  obtain ⟨isShort, _, hlacks, h⟩ := bind_eq_ok.1 h
  obtain ⟨-, rfl⟩ := look_eq_ok.1 hlacks
  split at h
  · cases h
  obtain ⟨_, middle, hadvance, h⟩ := bind_eq_ok.1 h
  obtain ⟨_, hwindow, -⟩ := map_eq_ok.1 h
  obtain ⟨-, rfl⟩ := look_eq_ok.1 hwindow
  exact moved_uncheckedAdvanceBy (by omega) hadvance

/-- A window that is taken is as wide as was asked for. -/
theorem moved_view {span : Span ε} {width : Int} {standing standing' : Standing τ}
    {window : Window} (h : view width span standing = .ok window standing') :
    Moved span width standing.position standing'.position := by
  obtain ⟨found, middle, hread, hrest⟩ := bind_eq_ok.1 h
  cases found with
  | some w =>
    obtain ⟨-, rfl⟩ := pure_eq_ok.1 hrest
    exact moved_read hread
  | none =>
    obtain ⟨left, _, -, hrest⟩ := bind_eq_ok.1 hrest
    obtain ⟨place, _, -, hthrow⟩ := bind_eq_ok.1 hrest
    cases hthrow

variable [Stored ε]

theorem moved_take {span : Span ε} {width : Int} {standing standing' : Standing τ}
    {bytes : List UInt8} (h : take width span standing = .ok bytes standing') :
    Moved span width standing.position standing'.position := by
  obtain ⟨window, middle, hview, hrest⟩ := bind_eq_ok.1 h
  obtain ⟨span', middle', hread, hrest⟩ := bind_eq_ok.1 hrest
  obtain ⟨-, rfl⟩ := pure_eq_ok.1 hrest
  cases hread
  exact moved_view hview

theorem moved_uint {span : Span ε} {width : Int} {standing standing' : Standing τ} {n : Nat}
    (h : uint width span standing = .ok n standing') :
    Moved span width standing.position standing'.position := by
  obtain ⟨bytes, middle, htake, hrest⟩ := bind_eq_ok.1 h
  obtain ⟨-, rfl⟩ := pure_eq_ok.1 hrest
  exact moved_take htake

end Scanning.Span
