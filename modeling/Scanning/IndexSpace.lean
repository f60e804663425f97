import Scanning.Fault

namespace Scanning

/-- A collection `σ` of elements `ε` that says how to move between its indices. Indices are integers
whose meaning the collection decides: a plain sequence counts elements, a view of UTF-8 counts
bytes. The first index is `0`. A step to the next element leads strictly forward and never past the
end. -/
class IndexSpace (σ : Type) (ε : outParam Type) where
  /-- The index behind the last element. -/
  endIndex : σ → Nat
  /-- The index of the next element. -/
  after : σ → Int → Except Fault Int
  /-- The index that many elements away, backwards when the distance is negative. -/
  offset : σ → Int → Int → Except Fault Int
  /-- The index that many elements away, or nothing when the walk would cross the limit, which is
  the last argument. -/
  offsetLimited : σ → Int → Int → Int → Except Fault (Option Int)
  elementAt : σ → Int → Except Fault ε
  /-- The elements from the first index up to the second. -/
  slice : σ → Int → Int → Except Fault (List ε)
  lt_after {subject : σ} {index next : Int} (h : after subject index = .ok next) : index < next
  after_le {subject : σ} {index next : Int} (h : after subject index = .ok next) :
    next ≤ endIndex subject

namespace IndexSpace

variable {σ ε : Type} [IndexSpace σ ε]

/-- Each step brings the end nearer. -/
theorem room_after_lt {subject : σ} {index next : Int} (h : after subject index = .ok next) :
    ((endIndex subject : Int) - next).toNat < ((endIndex subject : Int) - index).toNat := by
  have := lt_after h
  have := after_le h
  omega

/-- The element at an index and the index behind it; nothing at the end. -/
def takeAt (subject : σ) (index : Int) : Except Fault (Option (ε × Int)) :=
  if index = endIndex subject then .ok none
  else do
    let element ← elementAt subject index
    return some (element, ← after subject index)

/-- Where the elements of the list end if the subject goes on with them. -/
def prefixEnd [BEq ε] (subject : σ) (index : Int) : List ε → Except Fault (Option Int)
  | [] => .ok (some index)
  | expected :: rest =>
    if index = endIndex subject then .ok none
    else do
      if (← elementAt subject index) == expected then
        prefixEnd subject (← after subject index) rest
      else
        return none

/-- An element that is taken leaves the index that the step forward leads to. -/
theorem after_of_takeAt {subject : σ} {index next : Int} {element : ε}
    (h : takeAt subject index = .ok (some (element, next))) :
    after subject index = .ok next := by
  unfold takeAt at h
  split at h
  · simp at h
  · cases he : elementAt subject index with
    | error => simp [he, bind, Except.bind] at h
    | ok x =>
      cases ha : after subject index with
      | error => simp [he, ha, bind, Except.bind] at h
      | ok q => simp_all [bind, Except.bind, pure, Except.pure]

end IndexSpace

end Scanning
