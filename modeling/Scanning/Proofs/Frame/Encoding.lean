import Mathlib.Algebra.Order.Ring.Nat
import Scanning.Frame
import Scanning.Proofs.PrefixCode
import Scanning.Proofs.Span.BigEndian

namespace Scanning.Frame

/-- What a frame carries: a tag that fits into a byte, and a payload whose length fits into four. -/
structure Content where
  tag : UInt8
  payload : List UInt8
  fits : payload.length < 256 ^ 4

namespace Content

/-- The tag and the length. -/
def header (content : Content) : List UInt8 :=
  content.tag :: bigEndian 4 content.payload.length

/-- The bytes of a frame with this content. -/
def bytes (content : Content) : List UInt8 := content.header ++ content.payload

/-- The content as a tag and a payload. -/
def toPair (content : Content) : Int × List UInt8 := (content.tag.toNat, content.payload)

theorem length_bytes (content : Content) :
    content.bytes.length = headerSize + content.payload.length := by
  rw [bytes, header, List.length_append, List.length_cons, length_bigEndian]
  rfl

/-- The header tells where the frame ends. -/
theorem eq_of_prefix {content other : Content} (h : content.bytes <+: other.bytes) :
    content = other := by
  obtain ⟨tag, payload, hfits⟩ := content
  obtain ⟨tag', payload', hfits'⟩ := other
  obtain ⟨rest, hrest⟩ := h
  simp only [bytes, header, List.cons_append, List.append_assoc, List.cons.injEq] at hrest
  obtain ⟨rfl, hrest⟩ := hrest
  have hboth : (bigEndian 4 payload.length).length = (bigEndian 4 payload'.length).length := by
    rw [length_bigEndian, length_bigEndian]
  obtain ⟨hlengths, hpayloads⟩ := List.append_inj hrest hboth
  have hlength : payload.length = payload'.length := by
    rw [← ofBigEndian_bigEndian hfits, hlengths, ofBigEndian_bigEndian hfits']
  obtain ⟨rfl, -⟩ := List.append_inj (hpayloads.trans (List.append_nil payload').symm) hlength
  rfl

/-- The frames of all contents. -/
def code : PrefixCode Content UInt8 where
  word := bytes
  ne_nil content := List.cons_ne_nil content.tag _
  eq_of_prefix := eq_of_prefix

end Content

/-- Any content can be encoded, and its frame is its bytes. -/
theorem encode_content (content : Content) :
    encode content.tag.toNat content.payload = .ok content.bytes := by
  have htag := content.tag.toNat_lt
  have hfits : content.payload.length < Nat.pow 256 4 := content.fits
  have hlength := content.length_bytes
  rw [encode, if_neg (by omega), if_neg (by omega), Int.toNat_natCast, UInt8.ofNat_toNat]
  exact if_pos hlength

/-- What fits is the content of a frame. -/
theorem exists_content {tag : Int} {payload : List UInt8} (hlow : 0 ≤ tag) (hhigh : tag < 256)
    (hfits : payload.length < 256 ^ 4) :
    ∃ content : Content, content.toPair = (tag, payload) := by
  refine ⟨⟨UInt8.ofNat tag.toNat, payload, hfits⟩, ?_⟩
  have htag : ((UInt8.ofNat tag.toNat).toNat : Int) = tag := by
    rw [UInt8.toNat_ofNat']
    omega
  rw [Content.toPair, htag]

/-- A header with as many bytes behind it as it tells begins a frame. -/
theorem exists_bytes_prefix (tag : UInt8) {length others : List UInt8} (hfour : length.length = 4)
    (hroom : ofBigEndian length ≤ others.length) :
    ∃ content : Content, content.bytes <+: tag :: (length ++ others) := by
  have hpayload : (others.take (ofBigEndian length)).length = ofBigEndian length := by
    rw [List.length_take, Nat.min_eq_left hroom]
  have hfits := ofBigEndian_lt length
  rw [hfour, ← hpayload] at hfits
  refine ⟨⟨tag, others.take (ofBigEndian length), hfits⟩, others.drop (ofBigEndian length), ?_⟩
  rw [Content.bytes, Content.header, hpayload, ← hfour, bigEndian_ofBigEndian, List.cons_append,
    List.cons_append, List.append_assoc, List.take_append_drop]

/-- A tag and a payload can be encoded if they are the content of a frame. -/
theorem encode_eq_ok_iff {tag : Int} {payload bytes : List UInt8} :
    encode tag payload = .ok bytes ↔
      ∃ content : Content, content.toPair = (tag, payload) ∧ content.bytes = bytes := by
  constructor
  · intro h
    have hinside : 0 ≤ tag ∧ tag < 256 ∧ payload.length < Nat.pow 256 4 := by
      rw [encode] at h
      split at h
      · cases h
      split at h
      · cases h
      · omega
    obtain ⟨content, hpair⟩ := exists_content hinside.1 hinside.2.1 hinside.2.2
    cases hpair
    rw [encode_content] at h
    exact ⟨content, rfl, Except.ok.inj h⟩
  · rintro ⟨content, hpair, rfl⟩
    cases hpair
    exact encode_content content

/-- The bytes of frames with these tags and payloads, one after the other. -/
def encodeAll : List (Int × List UInt8) → Except Fault (List UInt8)
  | [] => .ok []
  | (tag, payload) :: others => do
    let bytes ← encode tag payload
    return bytes ++ (← encodeAll others)

/-- Frames in a row can be encoded exactly if the first can and the others can. -/
theorem encodeAll_cons_eq_ok_iff {pair : Int × List UInt8} {others : List (Int × List UInt8)}
    {data : List UInt8} :
    encodeAll (pair :: others) = .ok data ↔
      ∃ bytes rest, encode pair.1 pair.2 = .ok bytes ∧ encodeAll others = .ok rest ∧
        bytes ++ rest = data := by
  obtain ⟨tag, payload⟩ := pair
  rw [encodeAll]
  cases encode tag payload with
  | error fault => simp [bind, Except.bind]
  | ok bytes => cases encodeAll others <;> simp [bind, Except.bind, pure, Except.pure]

/-- Frames in a row are the contents of a text in the code of frames. -/
theorem encodeAll_eq_ok_iff {pairs : List (Int × List UInt8)} {data : List UInt8} :
    encodeAll pairs = .ok data ↔
      ∃ contents : List Content, contents.map Content.toPair = pairs ∧
        Content.code.encode contents = data := by
  induction pairs generalizing data with
  | nil =>
    constructor
    · intro h
      exact ⟨[], rfl, Except.ok.inj h⟩
    · rintro ⟨contents, hpairs, rfl⟩
      rw [List.map_eq_nil_iff.1 hpairs]
      rfl
  | cons pair others ih =>
    rw [encodeAll_cons_eq_ok_iff]
    constructor
    · rintro ⟨bytes, rest, hbytes, hrest, rfl⟩
      obtain ⟨content, hcontent, rfl⟩ := encode_eq_ok_iff.1 hbytes
      obtain ⟨contents, rfl, rfl⟩ := ih.1 hrest
      exact ⟨content :: contents, congrArg (· :: _) hcontent, rfl⟩
    · rintro ⟨contents, hpairs, rfl⟩
      obtain ⟨content, contents, rfl, hcontent, hothers⟩ := List.map_eq_cons_iff.1 hpairs
      exact ⟨content.bytes, Content.code.encode contents,
        encode_eq_ok_iff.2 ⟨content, hcontent, rfl⟩, ih.2 ⟨contents, hothers, rfl⟩, rfl⟩

end Scanning.Frame
