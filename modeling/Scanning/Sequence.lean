import Scanning.IndexSpace

namespace Scanning

/-- The place that an index of a sequence of `size` elements means, negative ones counted from the
end. -/
def resolveIndex (size : Nat) (index : Int) : Option Nat :=
  let place := if index < 0 then index + size else index
  if 0 ≤ place ∧ place < size then some place.toNat else none

/-- The place that the bound of a slice means: counted from the end when negative, and moved into
the sequence when outside. -/
def clampIndex (size : Nat) (index : Int) : Nat :=
  min (if index < 0 then index + size else index).toNat size

/-- The elements of an array between two slice bounds. -/
def sliceBetween {α : Type} (elements : Array α) (low high : Int) : List α :=
  (elements.extract (clampIndex elements.size low) (clampIndex elements.size high)).toList

/-- An array together with the kind of sequence that it is. -/
structure Sequence (ε : Type) where
  kind : SequenceKind
  elements : Array ε

namespace Sequence

variable {ε : Type}

/-- The characters of a text. -/
def ofText (text : String) : Sequence Char := ⟨.text, text.toList.toArray⟩

/-- The element at an index. -/
def elementAt (sequence : Sequence ε) (index : Int) : Except Fault ε :=
  match (resolveIndex sequence.elements.size index).bind (sequence.elements[·]?) with
  | some element => .ok element
  | none => .error (.noElement sequence.kind)

/-- The next index, for indices of elements only. -/
def after (sequence : Sequence ε) (index : Int) : Except Fault Int :=
  if 0 ≤ index ∧ index < sequence.elements.size then .ok (index + 1)
  else .error (.outOfBounds (.pastIndex index sequence.elements.size))

/-- The index a distance away, if it is one of the sequence. -/
def offset (sequence : Sequence ε) (index distance : Int) : Except Fault Int :=
  if 0 ≤ index + distance ∧ index + distance ≤ sequence.elements.size then .ok (index + distance)
  else .error (.outOfBounds (.pastEither distance index sequence.elements.size))

/-- The limit bounds the walk only in the direction of travel: it counts when it lies between the
index and the target. -/
def offsetLimited (sequence : Sequence ε) (index distance limit : Int) :
    Except Fault (Option Int) :=
  if 0 ≤ distance ∧ index ≤ limit ∧ limit < index + distance then .ok none
  else if distance < 0 ∧ index + distance < limit ∧ limit ≤ index then .ok none
  else some <$> sequence.offset index distance

instance : IndexSpace (Sequence ε) ε where
  endIndex sequence := sequence.elements.size
  after := after
  offset := offset
  offsetLimited := offsetLimited
  elementAt := elementAt
  slice sequence low high := .ok (sliceBetween sequence.elements low high)
  lt_after h := by
    unfold after at h
    split at h <;> simp_all
    omega
  after_le h := by
    unfold after at h
    split at h <;> simp_all
    omega

end Sequence

end Scanning
