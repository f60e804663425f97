import Mathlib.Data.List.DropRight
import Scanning.Proofs.Span.Fields

namespace Scanning.Span

open Unicode

section StripEnd

variable {α : Type} {inClass : α → Bool} {items kept : List α}

/-- What is left is in front of a tail of the class, and its own last element is not in the class. -/
theorem stripEnd_eq_iff :
    stripEnd inClass items = kept ↔
      ∃ tail, items = kept ++ tail ∧ (∀ x ∈ tail, inClass x = true) ∧
        ∀ x ∈ kept.getLast?, inClass x = false := by
  change items.rdropWhile inClass = kept ↔ _
  constructor
  · rintro rfl
    refine ⟨items.rtakeWhile inClass, List.rdropWhile_append_rtakeWhile.symm, ?_, ?_⟩
    · intro x hx
      exact List.mem_rtakeWhile_imp hx
    · intro x hx
      obtain ⟨hne, rfl⟩ := List.mem_getLast?_eq_getLast hx
      exact Bool.eq_false_iff.2 (List.rdropWhile_last_not inClass items hne)
  · rintro ⟨tail, rfl, htail, hlast⟩
    induction tail using List.reverseRecOn with
    | nil =>
      rw [List.append_nil, List.rdropWhile_eq_self_iff]
      intro hne
      rw [hlast _ (List.getLast?_eq_some_getLast hne)]
      exact Bool.false_ne_true
    | append_singleton tail x ih =>
      rw [List.forall_mem_append, List.forall_mem_singleton] at htail
      rw [← List.append_assoc, List.rdropWhile_concat_pos inClass _ x htail.2]
      exact ih htail.1

end StripEnd

/-- The text of a field without its padding. -/
def strippedText (chars : List Char) : List Char :=
  stripEnd isBlank (stripEnd (· == '\x00') chars)

theorem isBlank_nul : isBlank '\x00' = false := by decide

/-- A text is stripped of the null characters at its end, and then of the white space in front of
these: of each as much as there is, and once. -/
theorem strippedText_eq_iff {chars kept : List Char} :
    strippedText chars = kept ↔
      ∃ blanks nuls, chars = kept ++ blanks ++ nuls ∧ (∀ c ∈ blanks, isBlank c = true) ∧
        (∀ c ∈ nuls, c = '\x00') ∧ (∀ c ∈ (kept ++ blanks).getLast?, c ≠ '\x00') ∧
        ∀ c ∈ kept.getLast?, isBlank c = false := by
  rw [strippedText, stripEnd_eq_iff]
  constructor
  · rintro ⟨blanks, hfront, hblanks, hkept⟩
    obtain ⟨nuls, hchars, hnuls, hlast⟩ := stripEnd_eq_iff.1 hfront
    refine ⟨blanks, nuls, hchars, hblanks, ?_, ?_, hkept⟩
    · intro c hc
      exact beq_iff_eq.1 (hnuls c hc)
    · intro c hc
      exact beq_eq_false_iff_ne.1 (hlast c hc)
  · rintro ⟨blanks, nuls, hchars, hblanks, hnuls, hlast, hkept⟩
    refine ⟨blanks, stripEnd_eq_iff.2 ⟨nuls, hchars, ?_, ?_⟩, hblanks, hkept⟩
    · intro c hc
      exact beq_iff_eq.2 (hnuls c hc)
    · intro c hc
      exact beq_eq_false_iff_ne.2 (hlast c hc)

/-- Text that is empty or ends neither in a NUL nor in white space. -/
def EndsPlainly (text : List Char) : Prop := ∀ c ∈ text.getLast?, c ≠ '\x00' ∧ isBlank c = false

instance : DecidablePred EndsPlainly := fun text => Option.decidableForallMem text.getLast?

section Stripped

variable {text blanks : List Char}

/-- White space behind a text hides a NUL at its end. -/
theorem getLast?_append_blanks_ne_nul (hblanks : ∀ c ∈ blanks, isBlank c = true)
    (hlast : blanks = [] → ∀ c ∈ text.getLast?, c ≠ '\x00') :
    ∀ c ∈ (text ++ blanks).getLast?, c ≠ '\x00' := by
  cases blanks using List.reverseRecOn with
  | nil =>
    rw [List.append_nil]
    exact hlast rfl
  | append_singleton blanks blank =>
    rw [← List.append_assoc, List.getLast?_concat]
    rintro c ⟨⟩ rfl
    have hblank := hblanks _ (List.mem_append_right blanks List.mem_cons_self)
    rw [isBlank_nul] at hblank
    cases hblank

/-- Padding goes away whole exactly if it is spaces and then NULs. -/
theorem strippedText_padded_iff {padding : List Char} (htext : EndsPlainly text)
    (hpadding : ∀ c ∈ padding, c = '\x00' ∨ c = ' ') :
    strippedText (text ++ padding) = text ↔
      ∃ spaces nuls : Nat,
        padding = List.replicate spaces ' ' ++ List.replicate nuls '\x00' := by
  rw [strippedText_eq_iff]
  constructor
  · rintro ⟨blanks, nuls, hchars, hblanks, hnuls, -, -⟩
    rw [List.append_assoc] at hchars
    obtain rfl := List.append_cancel_left hchars
    refine ⟨blanks.length, nuls.length, ?_⟩
    congr 1
    · refine List.eq_replicate_iff.2 ⟨rfl, ?_⟩
      intro c hc
      obtain rfl | hspace := hpadding c (List.mem_append_left nuls hc)
      · cases (hblanks _ hc).symm.trans isBlank_nul
      · exact hspace
    · exact List.eq_replicate_iff.2 ⟨rfl, hnuls⟩
  · rintro ⟨spaces, nuls, rfl⟩
    have hblanks : ∀ c ∈ List.replicate spaces ' ', isBlank c = true := by
      intro c hc
      rw [List.eq_of_mem_replicate hc]
      decide
    refine ⟨_, _, (List.append_assoc _ _ _).symm, hblanks, ?_, ?_, ?_⟩
    · intro c hc
      exact List.eq_of_mem_replicate hc
    · exact getLast?_append_blanks_ne_nul hblanks fun _ c hc => (htext c hc).1
    · intro c hc
      exact (htext c hc).2

/-- A NUL is left at the end exactly if there is white space, and then nothing but NULs, behind
it. -/
theorem getLast?_strippedText_eq_nul_iff {chars : List Char} :
    (strippedText chars).getLast? = some '\x00' ↔
      ∃ front blanks nuls, chars = front ++ '\x00' :: (blanks ++ nuls) ∧ blanks ≠ [] ∧
        (∀ c ∈ blanks, isBlank c = true) ∧ ∀ c ∈ nuls, c = '\x00' := by
  constructor
  · intro hlast
    obtain ⟨blanks, nuls, hchars, hblanks, hnuls, hnul, -⟩ :=
      strippedText_eq_iff.1 (Eq.refl (strippedText chars))
    obtain ⟨front, hfront⟩ := List.getLast?_eq_some_iff.1 hlast
    refine ⟨front, blanks, nuls, ?_, ?_, hblanks, hnuls⟩
    · rw [hchars, hfront, List.append_assoc, List.append_assoc]
      rfl
    · rintro rfl
      rw [List.append_nil] at hnul
      exact hnul _ hlast rfl
  · rintro ⟨front, blanks, nuls, hchars, hne, hblanks, hnuls⟩
    have hkept : strippedText chars = front ++ ['\x00'] := by
      refine strippedText_eq_iff.2 ⟨blanks, nuls, ?_, hblanks, hnuls, ?_, ?_⟩
      · rw [hchars, List.append_assoc, List.append_assoc]
        rfl
      · exact getLast?_append_blanks_ne_nul hblanks fun hnil => absurd hnil hne
      · rw [List.getLast?_concat]
        rintro c ⟨⟩
        exact isBlank_nul
    rw [hkept, List.getLast?_concat]

end Stripped

/-- The bytes of ASCII text, one for each character. -/
def asciiBytes (text : List Char) : List UInt8 := text.map fun c => UInt8.ofNat c.toNat

/-- A text in ASCII is read back from its bytes. -/
theorem asciiChars_asciiBytes {text : List Char} (hascii : ∀ c ∈ text, c.toNat < 0x80) :
    asciiChars (asciiBytes text) = text := by
  have hbyte (c : Char) (hc : c ∈ text) : (UInt8.ofNat c.toNat).toNat = c.toNat := by
    have hsmall := hascii c hc
    rw [UInt8.toNat_ofNat']
    omega
  have hkept : (asciiBytes text).filter (· < 0x80) = asciiBytes text := by
    rw [asciiBytes, List.filter_eq_self]
    intro byte hmem
    obtain ⟨c, hc, rfl⟩ := List.mem_map.1 hmem
    rw [decide_eq_true_iff, UInt8.lt_iff_toNat_lt, hbyte c hc]
    exact hascii c hc
  rw [asciiChars, hkept, asciiBytes, List.map_map]
  refine (List.map_congr_left ?_).trans (List.map_id text)
  intro c hc
  change Char.ofNat (UInt8.ofNat c.toNat).toNat = c
  rw [hbyte c hc, Char.ofNat_toNat]

section Reading

variable {τ ε : Type} [Stored ε] {elements : List ε} {data : List UInt8} {k count : Nat}

/-- What reading the text of the `count` bytes from number `k` on comes to. -/
structure ReadsText (elements : List ε) (data : List UInt8) (k count : Nat) (memory : τ)
    (chars : List Char) : Prop where
  /-- The whole field is taken. -/
  read : readAscii count (ofList elements) ⟨k, memory⟩ =
    .ok (String.ofList chars) ⟨(k + count : Nat), memory⟩
  /-- Text and padding are told apart exactly if the padding is spaces and then NULs. -/
  padded_iff (text padding : List Char) (hascii : ∀ c ∈ text, c.toNat < 0x80)
    (htext : EndsPlainly text) (hpadding : ∀ c ∈ padding, c = '\x00' ∨ c = ' ')
    (hfield : (data.drop k).take count = asciiBytes (text ++ padding)) :
    chars = text ↔
      ∃ spaces nuls : Nat, padding = List.replicate spaces ' ' ++ List.replicate nuls '\x00'
  /-- There is no white space at the end, whatever the field holds. -/
  not_blank : ∀ c ∈ chars.getLast?, isBlank c = false
  /-- There is a NUL at the end exactly if the field has white space, and then nothing but NULs,
  behind one. -/
  nul_iff : chars.getLast? = some '\x00' ↔
    ∃ front blanks nuls, asciiChars ((data.drop k).take count) =
        front ++ '\x00' :: (blanks ++ nuls) ∧ blanks ≠ [] ∧
      (∀ c ∈ blanks, isBlank c = true) ∧ ∀ c ∈ nuls, c = '\x00'

/-- Text is read from any bytes, at any place and of any width, but its padding is taken off whole
only where no NUL stands in front of white space. -/
theorem exists_readsText (hdata : StandAs elements data) (hroom : k + count ≤ data.length)
    (memory : τ) : ∃ chars, ReadsText elements data k count memory chars := by
  refine ⟨strippedText (asciiChars ((data.drop k).take count)), ?_, ?_, ?_, ?_⟩
  · rw [readAscii, Move.bind_of_ok (hdata.take_eq hroom)]
    rfl
  · intro text padding hascii htext hpadding hfield
    have hwhole : ∀ c ∈ text ++ padding, c.toNat < 0x80 := by
      refine List.forall_mem_append.2 ⟨hascii, ?_⟩
      intro c hc
      obtain rfl | rfl := hpadding c hc <;> decide
    rw [hfield, asciiChars_asciiBytes hwhole, strippedText_padded_iff htext hpadding]
  · obtain ⟨_, _, -, -, -, -, hlast⟩ := strippedText_eq_iff.1
      (Eq.refl (strippedText (asciiChars ((data.drop k).take count))))
    exact hlast
  · exact getLast?_strippedText_eq_nul_iff

end Reading

/-- Text padded with spaces and then NULs. -/
def evenlyPadded : List UInt8 := asciiBytes ['I', 'D', ' ', ' ', '\x00']

/-- A field of five bytes that holds two letters, blanks and then null characters gives the two
letters. -/
theorem exists_readsText_evenlyPadded :
    StandAs (evenlyPadded.map Cell.ofByte) evenlyPadded ∧ 0 + 5 ≤ evenlyPadded.length ∧
      readAscii (5 : Nat) (ofList (evenlyPadded.map Cell.ofByte)) ⟨(0 : Nat), ()⟩ =
        .ok (String.ofList ['I', 'D']) ⟨(5 : Nat), ()⟩ := by
  have hdata : StandAs (evenlyPadded.map Cell.ofByte) evenlyPadded := standAs_ofByte evenlyPadded
  have hroom : 0 + 5 ≤ evenlyPadded.length := by decide
  obtain ⟨chars, hreads⟩ := exists_readsText hdata hroom ()
  have hpadded := hreads.padded_iff ['I', 'D'] [' ', ' ', '\x00'] (by simp) (by decide)
    (by simp) (by decide)
  obtain rfl := hpadded.2 ⟨2, 1, rfl⟩
  exact ⟨hdata, hroom, hreads.read⟩

/-- A NUL in front of a space is padding too, but it is read as text. -/
theorem readAscii_nul_before_space :
    EndsPlainly ['A'] ∧ (∀ c ∈ ['\x00', ' '], c = '\x00' ∨ c = ' ') ∧
      readAscii (3 : Nat) (ofList (asciiBytes ['A', '\x00', ' '])) ⟨(0 : Nat), ()⟩ ≠
        .ok (String.ofList ['A']) ⟨(3 : Nat), ()⟩ := by
  have hread : readAscii (3 : Nat) (ofList (asciiBytes ['A', '\x00', ' '])) ⟨(0 : Nat), ()⟩ =
      .ok (String.ofList ['A', '\x00']) ⟨(3 : Nat), ()⟩ := rfl
  refine ⟨by decide, by simp, ?_⟩
  rw [hread]
  intro hsame
  injection hsame with htexts
  have hchars : ['A', '\x00'] = ['A'] := String.ofList_injective htexts
  cases hchars

end Scanning.Span
