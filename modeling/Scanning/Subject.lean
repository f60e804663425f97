import Scanning.ScalarView
import Scanning.Value
import Scanning.Pattern.Syntax

namespace Scanning

/-- Subjects of any kind, with values as elements: texts, bytes, lists, tuples, and views of
UTF-8. -/
inductive Subject where
  | text (characters : Sequence Char)
  | bytes (data : Sequence UInt8)
  | items (values : Sequence Value)
  | scalars (view : ScalarView)

namespace Subject

open IndexSpace

/-- A text as a subject. -/
def ofText (text : String) : Subject := .text (Sequence.ofText text)

/-- Bytes as a subject, which can be changed or not. -/
def ofBytes (isMutable : Bool) (data : List UInt8) : Subject :=
  .bytes ⟨if isMutable then .mutableBytes else .bytes, data.toArray⟩

/-- A list as a subject. -/
def ofList (values : List Value) : Subject := .items ⟨.list, values.toArray⟩

/-- A tuple as a subject. -/
def ofTuple (values : List Value) : Subject := .items ⟨.tuple, values.toArray⟩

/-- Bytes as a subject that shows their characters. -/
def ofUtf8 (data : List UInt8) : Subject := .scalars ⟨data.toArray⟩

/-- The index behind the last element. -/
def size : Subject → Nat
  | text s => s.elements.size
  | bytes s => s.elements.size
  | items s => s.elements.size
  | scalars view => view.data.size

/-- The index of the next element. -/
def next (subject : Subject) (index : Int) : Except Fault Int :=
  match subject with
  | text s => after s index
  | bytes s => after s index
  | items s => after s index
  | scalars view => after view index

/-- The element at an index, as a value. -/
def elementAt (subject : Subject) (index : Int) : Except Fault Value :=
  match subject with
  | text s => Value.ofChar <$> s.elementAt index
  | bytes s => Value.ofByte <$> s.elementAt index
  | items s => s.elementAt index
  | scalars view => (fun chars => Value.text (String.ofList chars)) <$> view.textAt index

/-- The elements between two indices, as values. -/
def slice (subject : Subject) (low high : Int) : Except Fault (List Value) :=
  match subject with
  | text s => .ok ((sliceBetween s.elements low high).map Value.ofChar)
  | bytes s => .ok ((sliceBetween s.elements low high).map Value.ofByte)
  | items s => .ok (sliceBetween s.elements low high)
  | scalars view => (·.map Value.ofChar) <$> view.slice low high

instance : IndexSpace Subject Value where
  endIndex := size
  after := next
  offset subject index distance :=
    match subject with
    | text s => offset s index distance
    | bytes s => offset s index distance
    | items s => offset s index distance
    | scalars view => offset view index distance
  offsetLimited subject index distance limit :=
    match subject with
    | text s => offsetLimited s index distance limit
    | bytes s => offsetLimited s index distance limit
    | items s => offsetLimited s index distance limit
    | scalars view => offsetLimited view index distance limit
  elementAt := elementAt
  slice := slice
  lt_after {subject _ _} h := by cases subject <;> exact lt_after (by simpa [next] using h)
  after_le {subject _ _} h := by cases subject <;> exact after_le (by simpa [next] using h)

/-- Elements put together again to a value of the subject's kind. The elements of a view are
texts, and so are its pieces. -/
def assemble (subject : Subject) (elements : List Value) : Value :=
  match subject with
  | text _ | scalars _ => .text (String.join (elements.map textOf))
  | bytes s => .bytes (s.kind = .mutableBytes) (elements.map byteOf)
  | items s => if s.kind = .tuple then .tuple elements else .list elements
where
  textOf : Value → String
    | .text s => s
    | _ => ""
  byteOf : Value → UInt8
    | .int n => UInt8.ofNat n.toNat
    | _ => 0

/-- All elements. A view is decoded as a whole. -/
def elements (subject : Subject) : Except Fault (List Value) :=
  subject.slice 0 subject.size

/-- The bytes of a subject seen as UTF-8. Lists have to hold bytes only. The elements of a view are
no bytes, unless it has none. -/
def asUtf8 : Subject → Except Fault Subject
  | bytes s => .ok (.scalars ⟨s.elements⟩)
  | items s => do
    let data ← s.elements.mapM fun value =>
      match value.number? with
      | some n => if 0 ≤ n ∧ n < 256 then .ok (UInt8.ofNat n.toNat) else .error .notAllBytes
      | none => .error .unsuitable
    return .scalars ⟨data⟩
  | scalars view => do
    if (← view.slice 0 view.data.size).isEmpty then return .scalars view else throw .unsuitable
  | text _ => .error .unsuitable

/-- Appends a value to a list or to bytes in place. -/
def append (subject : Subject) (value : Value) : Except Fault Subject :=
  match subject with
  | bytes s =>
    match value.number? with
    | some n =>
      if 0 ≤ n ∧ n < 256 then
        .ok (.bytes { s with elements := s.elements.push (UInt8.ofNat n.toNat) })
      else .error .notAByte
    | none => .error .unsuitable
  | items s => .ok (.items { s with elements := s.elements.push value })
  | _ => .error .unsuitable

/-- Cuts a list or bytes off at a slice bound in place. -/
def truncate (subject : Subject) (bound : Int) : Except Fault Subject :=
  match subject with
  | bytes s =>
    .ok (.bytes { s with elements := s.elements.extract 0 (clampIndex s.elements.size bound) })
  | items s =>
    .ok (.items { s with elements := s.elements.extract 0 (clampIndex s.elements.size bound) })
  | _ => .error .unsuitable

/-- The code units from an index on, and what they are; only texts and bytes have them. -/
def units (subject : Subject) (index : Int) : Except Fault (Pattern.Alphabet × Array Nat) :=
  match subject with
  | text s =>
    .ok (.text, ((sliceBetween s.elements index s.elements.size).map Char.toNat).toArray)
  | bytes s =>
    .ok (.bytes, ((sliceBetween s.elements index s.elements.size).map UInt8.toNat).toArray)
  | items s => .error (.unmatchable (if s.kind = .tuple then .tuple else .list))
  | scalars _ => .error (.unmatchable .scalarView)

end Subject

end Scanning
