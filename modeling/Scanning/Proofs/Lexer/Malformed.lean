import Scanning.Proofs.Lexer.Agreement
import Scanning.Proofs.Lexer.Breaking
import Scanning.Proofs.ScalarView.Broken
import Scanning.Proofs.ScalarView.Pieces

namespace Scanning.Lexer

open IndexSpace Utf8

section Pieces

variable {σ τ : Type} [IndexSpace σ Char] {subject : σ} {standing standing' : Standing τ}
  {token : Token}

/-- The token is the piece of the subject between its offsets. -/
structure Token.IsPiece (token : Token) (subject : σ) : Prop where
  start_lt : token.start < token.stop
  stop_le : token.stop ≤ endIndex subject
  slice_eq : slice subject token.start token.stop = .ok token.text.toList

/-- The next token is a piece of the subject, at or behind where the scan stood, and the scan ends
where it ends. -/
theorem isPiece_of_nextKept {config : Config}
    (h : nextKept config subject standing = .ok (some token) standing') :
    token.IsPiece subject ∧ standing.position ≤ token.start ∧
      standing'.position = token.stop := by
  fun_induction nextKept config subject standing with
  | case1 | case2 | case4 => cases h
  | case3 standing kind between hkind hdrops ih =>
    have hpast := (leadsPast_lexeme hkind).1
    obtain ⟨hpiece, hstart, hstop⟩ := ih h
    exact ⟨hpiece, by omega, hstop⟩
  | case5 standing kind between hkind hdrops chars hslice =>
    cases h
    obtain ⟨hlt, hle⟩ := leadsPast_lexeme hkind
    rw [← String.toList_ofList (l := chars)] at hslice
    exact ⟨⟨hlt, hle, hslice⟩, Int.le_refl _, rfl⟩

/-- A token that a scanner gives is the next one that its configuration keeps. -/
theorem nextKept_of_next {scanner scanner' : Scanner}
    (h : scanner.next subject standing = (scanner', .ok (some token) standing')) :
    nextKept scanner.config subject standing = .ok (some token) standing' := by
  unfold Scanner.next at h
  split at h
  · simp at h
  split at h
  · simp at h
  split at h
  · simp_all
  · simp_all

/-- All tokens of a scan are pieces of its subject, and lie behind where it begins. -/
theorem isPiece_of_mem_drain (scanner : Scanner) (subject : σ) (standing : Standing τ) :
    ∀ token ∈ (scanner.drain subject standing).1,
      token.IsPiece subject ∧ standing.position ≤ token.start := by
  fun_induction Scanner.drain scanner subject standing with
  | case1 | case2 => simp
  | case3 scanner standing scanner' token standing' hstep tokens ending hrest ih =>
    obtain ⟨hpiece, hstart, hstop⟩ := isPiece_of_nextKept (nextKept_of_next hstep)
    rw [hrest] at ih
    intro other hmem
    obtain rfl | hmem := List.mem_cons.1 hmem
    · exact ⟨hpiece, hstart⟩
    · have hlt := hpiece.start_lt
      obtain ⟨hother, hbehind⟩ := ih other hmem
      exact ⟨hother, by omega⟩

end Pieces

/-- The text of a token of any bytes is what the bytes between its offsets encode. -/
theorem encode_token (config : Config) (data : List UInt8) :
    ∀ token ∈ (scanAll config (ScalarView.ofBytes data)).1, ∃ start stop : Nat,
      token.start = start ∧ token.stop = stop ∧ stop ≤ data.length ∧
        encode token.text.toList = (data.take stop).drop start := by
  intro token hmem
  rw [scanAll_eq] at hmem
  obtain ⟨hpiece, hstart⟩ := isPiece_of_mem_drain _ _ _ token hmem
  have hstart : 0 ≤ token.start := hstart
  have hlt := hpiece.start_lt
  have hstop : token.stop ≤ data.length := hpiece.stop_le
  obtain ⟨start, hstart⟩ := Int.eq_ofNat_of_zero_le hstart
  obtain ⟨stop, hstop'⟩ := Int.eq_ofNat_of_zero_le (show 0 ≤ token.stop by omega)
  have hslice := hpiece.slice_eq
  rw [hstart, hstop'] at hslice
  exact ⟨start, stop, hstart, hstop', by omega, ScalarView.slice_eq_ok_iff.1 hslice⟩

/-- How the bytes are refused whose longest well-formed part are those characters: by the decoder,
or with the complaint about a character that these characters meet as a text. -/
inductive RefusedAs (chars : List Char) :
    Except Fault (List Token) → Except Fault (List Token) → Prop where
  | malformed (outcome : Except Fault (List Token)) (stretch : Malformed) :
      RefusedAs chars outcome (.error (.malformed stretch))
  | unexpected (c : Char) {k : Nat} (hk : k ≤ chars.length) :
      RefusedAs chars (.error (.parse ⟨.lexer, .unexpectedCharacter c, some k⟩))
        (.error (.parse ⟨.lexer, .unexpectedCharacter c, some (byteOffset chars k)⟩))

/-- Bytes that are not well-formed are never complained about as a string without an end. -/
theorem RefusedAs.ne_unterminated {chars : List Char} {outcome : Except Fault (List Token)}
    {offset : Option Int}
    (h : RefusedAs chars outcome (.error (.parse ⟨.lexer, .unterminatedString, offset⟩))) :
    False := by
  cases h

/-- A scan that fails gives no list of tokens but its failure. -/
theorem tokens_eq_error {σ : Type} [IndexSpace σ Char] {config : Config} {subject : σ}
    {fault : Fault} (h : (scanAll config subject).2 = some fault) :
    tokens config subject = .error fault := by
  rw [tokens]
  generalize scanAll config subject = found at h
  obtain ⟨tokens, ending⟩ := found
  cases h
  rfl

/-- A scan that breaks off behind a well-formed part is refused as the text of that part is. -/
theorem refusedAs_of_broken {config : Config} (hlimit : config.maxTokens = none)
    {data : List UInt8} {chars : List Char} {stretch : Malformed}
    (broken : Broken (ScalarView.ofBytes data) chars (byteOffset chars) (.malformed stretch)) :
    RefusedAs chars (tokenize config (String.ofList chars))
      (tokenizeBytes config data.toArray) := by
  have layout := ScalarView.layout_encoding chars
  have htext : Layout (Sequence.ofText (String.ofList chars)) chars id := by
    have hlayout : Layout (Sequence.ofText (String.ofList chars)) (String.ofList chars).toList id :=
      (Sequence.ofText (String.ofList chars)).layout
    rw [String.toList_ofList] at hlayout
    exact hlayout
  have hagree : SameTokens chars.length id (byteOffset chars)
      (tokenize config (String.ofList chars)) (tokens config (ScalarView.encoding chars)) :=
    tokens_agree htext layout config
  have hbreaks := scanAll_breaks broken layout hlimit
  generalize hbytes : (scanAll config (ScalarView.ofBytes data)).2 = ending at hbreaks
  generalize hfront : (scanAll config (ScalarView.encoding chars)).2 = ending' at hbreaks
  cases hbreaks with
  | refused =>
    have hrefused : tokenizeBytes config data.toArray = _ := tokens_eq_error hbytes
    rw [hrefused]
    exact .malformed _ _
  | unexpected c index =>
    have hrefused : tokenizeBytes config data.toArray = _ := tokens_eq_error hbytes
    rw [hrefused]
    rw [tokens_eq_error hfront] at hagree
    generalize tokenize config (String.ofList chars) = outcome at hagree ⊢
    cases hagree with
    | error hfault =>
      cases hfault with
      | intro hk complaint => exact .unexpected c hk

/-- Bytes that are not well-formed are refused, by the decoder or with the complaint about a
character that their longest well-formed part meets as a text. They are never said to hold an
unterminated string, and the tokens before the refusal are what the bytes between their offsets
encode. -/
theorem tokenizeBytes_malformed {config : Config} (hlimit : config.maxTokens = none)
    {data : List UInt8} (hmalformed : ¬ WellFormed data) :
    ∃ (chars : List Char) (stop : Nat), stop ≤ data.length ∧
      decode (data.take stop) = .ok chars ∧
      (∀ longer ≤ data.length, WellFormed (data.take longer) → longer ≤ stop) ∧
      RefusedAs chars (tokenize config (String.ofList chars))
        (tokenizeBytes config data.toArray) ∧
      (∀ offset, tokenizeBytes config data.toArray ≠
        .error (.parse ⟨.lexer, .unterminatedString, offset⟩)) ∧
      ∀ token ∈ (scanAll config (ScalarView.ofBytes data)).1, ∃ start stop : Nat,
        token.start = start ∧ token.stop = stop ∧ stop ≤ data.length ∧
          encode token.text.toList = (data.take stop).drop start := by
  obtain ⟨chars, rest, hfront⟩ := code.exists_front data
  have hrest : rest ≠ [] := by
    intro hempty
    obtain ⟨other, hother⟩ := hfront.rest_eq_nil_iff.1 hempty
    exact hmalformed (wellFormed_iff.2 ⟨other, hother⟩)
  obtain ⟨stretch, broken⟩ := ScalarView.exists_broken_ofBytes hfront hrest
  have hrefused := refusedAs_of_broken hlimit broken
  refine ⟨chars, (encode chars).length, hfront.stop_le, decode_eq_ok_iff.2 hfront.take_eq.symm, ?_,
    hrefused, ?_, encode_token config data⟩
  · intro longer hle hwellFormed
    exact hfront.longest hle (wellFormed_iff.1 hwellFormed)
  · intro offset hunterminated
    rw [hunterminated] at hrefused
    exact hrefused.ne_unterminated

/-- The break is inside a string, which the well-formed part alone leaves unterminated. -/
theorem tokenizeBytes_malformed_in_string :
    Config.maxTokens {} = none ∧ ¬ WellFormed [0x61, 0x27, 0xC3, 0x28] ∧
      ∃ (chars : List Char) (stop : Nat), stop ≤ [0x61, 0x27, 0xC3, (0x28 : UInt8)].length ∧
        decode ([0x61, 0x27, 0xC3, 0x28].take stop) = .ok chars ∧
        (∀ longer ≤ [0x61, 0x27, 0xC3, (0x28 : UInt8)].length,
          WellFormed ([0x61, 0x27, 0xC3, 0x28].take longer) → longer ≤ stop) ∧
        RefusedAs chars (tokenize {} (String.ofList chars))
          (tokenizeBytes {} [0x61, 0x27, 0xC3, 0x28].toArray) ∧
        (∀ offset, tokenizeBytes {} [0x61, 0x27, 0xC3, 0x28].toArray ≠
          .error (.parse ⟨.lexer, .unterminatedString, offset⟩)) ∧
        ∀ token ∈ (scanAll {} (ScalarView.ofBytes [0x61, 0x27, 0xC3, 0x28])).1,
          ∃ start stop : Nat, token.start = start ∧ token.stop = stop ∧
            stop ≤ [0x61, 0x27, 0xC3, (0x28 : UInt8)].length ∧
            encode token.text.toList = ([0x61, 0x27, 0xC3, 0x28].take stop).drop start := by
  have hmalformed : ¬ WellFormed [0x61, 0x27, 0xC3, 0x28] := by
    have hrefused : (decode [0x61, 0x27, 0xC3, 0x28]).toOption = none := by decide +kernel
    rintro ⟨chars, hchars⟩
    rw [hchars] at hrefused
    cases hrefused
  exact ⟨rfl, hmalformed, tokenizeBytes_malformed rfl hmalformed⟩

end Scanning.Lexer
