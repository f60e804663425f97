import Scanning.Session.Matching
import Scanning.Proofs.Layout
import Scanning.Proofs.Move.Bounds

namespace Scanning

open IndexSpace

/-- From an index inside a sequence there are as many elements left as the index lacks to the
end. -/
theorem length_sliceBetween {α : Type} (elements : Array α) {index : Int} (hstart : 0 ≤ index)
    (hend : index ≤ elements.size) :
    index + ((sliceBetween elements index elements.size).length : Int) = elements.size := by
  obtain ⟨place, rfl⟩ := Int.eq_ofNat_of_zero_le hstart
  rw [sliceBetween_natCast, List.length_drop, List.length_take, Array.length_toList]
  omega

/-- The units from an index on reach to the end. -/
theorem Subject.add_size_units {subject : Subject} {index : Int} {alphabet : Pattern.Alphabet}
    {units : Array Nat} (hindex : Within subject index)
    (h : subject.units index = .ok (alphabet, units)) : index + units.size = endIndex subject := by
  obtain ⟨hstart, hend⟩ := hindex
  cases subject with
  | text s | bytes s =>
    cases h
    rw [List.size_toArray, List.length_map]
    exact length_sliceBetween s.elements hstart hend
  | items s | scalars view => cases h

namespace Session

variable {τ : Type} {subject : Subject}

/-- A match that is found from a place inside the subject ends inside it. -/
theorem within_matchAt {engine : Engine} {index : Int} {found : Found}
    (hindex : Within subject index) (h : matchAt engine subject index = .ok (some found)) :
    Within subject (index + found.length) := by
  obtain ⟨_, -, h⟩ := Fault.bind_eq_ok.1 h
  obtain ⟨⟨alphabet, units⟩, hunits, h⟩ := Fault.bind_eq_ok.1 h
  have hlength := engine.length_le h
  have hend := Subject.add_size_units hindex hunits
  unfold Within at hindex ⊢
  omega

/-- Reading a match never leaves the subject, whatever the engine finds. -/
theorem staysWithin_readMatch (engine : Engine) :
    Move.StaysWithin subject (readMatch engine : Move Subject τ (Option Found)) := by
  apply Move.staysWithin_consume
  intro index answer next hindex h
  obtain ⟨found, hmatch, h⟩ := Fault.bind_eq_ok.1 h
  cases found with
  | none =>
    cases h
    exact hindex
  | some found =>
    cases h
    exact within_matchAt hindex hmatch

end Session

end Scanning
