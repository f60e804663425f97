import Scanning.Record.Raw
import Scanning.Span.Progress

namespace Scanning

open Record (Raw Checked)

/-- A frame, and the offset at which its header begins. Its bytes are the tag in one byte, the
length of the payload in four, most significant first, and the payload. A stream is frames one after
the other with nothing between or behind them. -/
structure Frame where
  tag : Nat
  offset : Nat
  payload : List UInt8 := []
  deriving DecidableEq, Repr

namespace Frame

/-- The bytes of tag and length. -/
def headerSize : Nat := 5

/-- The bytes of the whole frame. -/
def size (frame : Frame) : Nat := headerSize + frame.payload.length

/-- A tag is a byte. -/
def readTag : Raw → Except FieldCause Int := Record.readIntBetween 0 255

/-- No header begins in front of its stream. -/
def readOffset : Raw → Except FieldCause Int := Record.readIntFrom 0

/-- The frame of a tag, an offset and a payload, if the numbers are in their bounds. -/
def ofNumbers (tag offset : Int) (payload : List UInt8) : Checked Frame :=
  Checked.field (Checked.field
    (.ok fun tag offset => ⟨tag.toNat, offset.toNat, payload⟩)
    (Record.present readTag "tag" (.int tag)))
    (Record.present readOffset "offset" (.int offset))

/-- The bytes of a frame. The tag has to fit into its byte, the length into its four. -/
def encode (tag : Int) (payload : List UInt8) : Except Fault (List UInt8) :=
  if tag < 0 then .error .tagNegative
  else if 256 ≤ tag ∨ Nat.pow 256 4 ≤ payload.length then .error .tagTooBig
  else
    let bytes := UInt8.ofNat tag.toNat :: bigEndian 4 payload.length ++ payload
    if bytes.length = headerSize + payload.length then .ok bytes else .error .unmet

variable {τ : Type}

/-- An underrun inside a frame is a failure of the frame, reported at its start. -/
def atFrame (start : Int) : Fault → Fault
  | .parse ⟨.span, .underrun need left, _⟩ =>
    .parse ⟨.frames, .truncatedFrame need left, some start⟩
  | fault => fault

/-- Takes the tag and the payload of a frame. -/
def readFields : Move (Span UInt8) τ (Nat × List UInt8) := do
  let tag ← Span.uint 1
  let length ← Span.uint 4
  let payload ← Span.take length
  return (tag, payload)

/-- Takes one frame. Its numbers are checked when all of it has been taken. -/
def readFrame : Move (Span UInt8) τ Frame := fun span standing =>
  match readFields span standing with
  | .error fault standing' => .error (atFrame standing.position fault) standing'
  | .ok (tag, payload) standing' =>
    match ofNumbers tag standing.position payload with
    | .ok frame => .ok frame standing'
    | .error faults => .error (.invalidFields faults) standing'

/-- A frame takes at least its header. -/
theorem leadsOn_readFrame {span : Span UInt8} {standing standing' : Standing τ} {frame : Frame}
    (h : readFrame span standing = .ok frame standing') :
    standing.position < standing'.position ∧ standing'.position ≤ span.items.size := by
  unfold readFrame at h
  split at h
  case h_1 => cases h
  case h_2 hfields =>
    split at h
    case h_2 => cases h
    cases h
    obtain ⟨tag, _, htag, hrest⟩ := Move.bind_eq_ok.1 hfields
    obtain ⟨length, _, hlength, hrest⟩ := Move.bind_eq_ok.1 hrest
    obtain ⟨payload, _, hpayload, hrest⟩ := Move.bind_eq_ok.1 hrest
    obtain ⟨-, rfl⟩ := Move.pure_eq_ok.1 hrest
    have htag := Span.moved_uint htag
    have hlength := Span.moved_uint hlength
    have hpayload := Span.moved_take hpayload
    unfold Span.Moved at *
    omega

/-- The frames from the position on, `given` of them having been given before, up to the end, the
limit or a failure, and that failure. -/
def framesFrom (limit : Option Int) (given : Nat) (span : Span UInt8) (standing : Standing τ) :
    List Frame × Option Fault :=
  if standing.position = span.items.size then ([], none)
  else if limit.any (· ≤ (given : Int)) then ([], none)
  else match _ : readFrame span standing with
    | .error fault _ => ([], some fault)
    | .ok frame standing' =>
      let (frames, ending) := framesFrom limit (given + 1) span standing'
      (frame :: frames, ending)
termination_by ((span.items.size : Int) - standing.position).toNat
decreasing_by
  have := leadsOn_readFrame ‹_›
  omega

/-- The frames of a stream up to its end, the limit or a failure, and that failure. -/
def stream (limit : Option Int) (data : Array UInt8) : List Frame × Option Fault :=
  framesFrom limit 0 ⟨data, true⟩ (⟨0, ()⟩ : Standing Unit)

/-- All frames of a stream. -/
def readAll (data : Array UInt8) : Except Fault (List Frame) :=
  match stream none data with
  | (frames, none) => .ok frames
  | (_, some fault) => .error fault

end Frame

end Scanning
