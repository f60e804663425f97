import Scanning.Sequence

namespace Scanning

/-- Bytes to be read as UTF-8. The elements are the characters and the indices are the byte offsets
at which they begin, so that a view shares its indices with the bytes themselves. A step forward
trusts the lead byte; only taking an element or a slice decodes. A step back looks for the nearest
byte that is no continuation byte. -/
structure ScalarView where
  data : Array UInt8
  deriving DecidableEq, Repr

namespace ScalarView

/-- The bytes of a text. -/
def ofText (text : String) : ScalarView := ⟨(Utf8.encode text.toList).toArray⟩

/-- The byte at an index; there is none behind the end. -/
def byteAt (view : ScalarView) (index : Int) : Except Fault UInt8 :=
  match (resolveIndex view.data.size index).bind (view.data[·]?) with
  | some byte => .ok byte
  | none => .error (.noElement .bytes)

/-- The byte that a report on an index shows. Before the first byte there is none, and FF stands
for it. -/
def shownByte (view : ScalarView) (index : Int) : UInt8 :=
  if index < 0 then 0xFF else view.data[index.toNat]?.getD 0xFF

/-- The width that the lead byte at an index announces, if it is a lead byte and the view is long
enough. -/
def width (view : ScalarView) (index : Int) : Except Fault Nat := do
  let lead ← view.byteAt index
  let width := Utf8.leadWidth lead
  if width = 0 then
    throw (.malformed ⟨view.shownByte index, index, index + 1, .invalidStart⟩)
  if index + width > view.data.size then
    throw (.malformed ⟨view.shownByte index, index, view.data.size, .unexpectedEnd⟩)
  return width

/-- Walks back over continuation bytes, from the byte in front of `stop` to the nearest byte that is
none, or to the first byte. -/
def startBelow (view : ScalarView) : Nat → Except Fault Nat
  | 0 => .ok 0
  | index + 1 => do
    let byte ← view.byteAt (index + 1 : Nat)
    if Utf8.isContinuation byte then view.startBelow index else return index + 1

/-- The index of the element before, for an index above zero. -/
def before (view : ScalarView) (index : Int) : Except Fault Int :=
  (fun start => (start : Int)) <$> view.startBelow (index - 1).toNat

/-- The next index, by the lead byte. -/
def after (view : ScalarView) (index : Int) : Except Fault Int :=
  if 0 ≤ index ∧ index < view.data.size then
    (fun width => index + (width : Int)) <$> view.width index
  else .error (.outOfBounds (.pastByte index view.data.size))

/-- Steps forward that many elements; nothing when the limit is met before. -/
def forward (view : ScalarView) (limit : Option Int) : Nat → Int → Except Fault (Option Int)
  | 0, index => .ok (some index)
  | steps + 1, index => do
    if limit = some index then
      return none
    view.forward limit steps (← view.after index)

/-- Steps back that many elements; nothing when the limit is met before. -/
def backward (view : ScalarView) (limit : Option Int) : Nat → Int → Except Fault (Option Int)
  | 0, index => .ok (some index)
  | steps + 1, index => do
    if limit = some index then
      return none
    if index ≤ 0 then
      throw (.outOfBounds .beforeStart)
    view.backward limit steps (← view.before index)

/-- The index a distance away, one element at a time; nothing when the limit is met on the way. -/
def walk (view : ScalarView) (index distance : Int) (limit : Option Int) :
    Except Fault (Option Int) :=
  if 0 ≤ distance then view.forward limit distance.toNat index
  else view.backward limit (-distance).toNat index

/-- The index a distance away. -/
def offset (view : ScalarView) (index distance : Int) : Except Fault Int := do
  match ← view.walk index distance none with
  | some target => return target
  | none => throw .unmet

/-- The characters of the bytes from one offset up to another. -/
def slice (view : ScalarView) (low high : Int) : Except Fault (List Char) :=
  match Utf8.decode (sliceBetween view.data low high) with
  | .ok chars => .ok chars
  | .error stretch => .error (.malformed stretch)

/-- The text of the element at an index. It is a single character, except that a negative index,
whose element would end behind the last byte, gives the empty text. -/
def textAt (view : ScalarView) (index : Int) : Except Fault (List Char) := do
  view.slice index (index + (← view.width index))

/-- The character at an index. -/
def elementAt (view : ScalarView) (index : Int) : Except Fault Char := do
  match ← view.textAt index with
  | c :: _ => return c
  | [] => throw (.outOfBounds (.pastByte index view.data.size))

/-- The width of a character is that of its lead byte, which announces one byte at least. -/
theorem width_eq_ok {view : ScalarView} {index : Int} {n : Nat} (h : view.width index = .ok n) :
    0 < n ∧ index + n ≤ view.data.size := by
  cases hb : view.byteAt index with
  | error fault => simp [width, hb, bind, Except.bind] at h
  | ok lead =>
    by_cases hz : Utf8.leadWidth lead = 0
    · simp [width, hb, hz, bind, Except.bind, throw, throwThe, MonadExceptOf.throw] at h
    · by_cases hl : index + Utf8.leadWidth lead > view.data.size
      · simp [width, hb, hz, hl, bind, Except.bind, throw, throwThe, MonadExceptOf.throw] at h
      · simp [width, hb, hz, hl, bind, Except.bind, pure, Except.pure] at h
        omega

/-- A step forward goes by the width that the lead byte announces, up to the end. -/
theorem after_eq_ok {view : ScalarView} {index next : Int} (h : view.after index = .ok next) :
    ∃ n, view.width index = .ok n ∧ next = index + n := by
  unfold after at h
  split at h
  · cases hw : view.width index <;> simp_all [Functor.map, Except.map]
  · simp at h

instance : IndexSpace ScalarView Char where
  endIndex view := view.data.size
  after := after
  offset := offset
  offsetLimited view index distance limit := view.walk index distance (some limit)
  elementAt := elementAt
  slice := slice
  lt_after h := by
    obtain ⟨n, hw, rfl⟩ := after_eq_ok h
    have := (width_eq_ok hw).1
    omega
  after_le h := by
    obtain ⟨n, hw, rfl⟩ := after_eq_ok h
    exact (width_eq_ok hw).2

end ScalarView

end Scanning
