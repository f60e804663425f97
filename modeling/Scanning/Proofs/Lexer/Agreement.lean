import Mathlib.Data.List.Forall2
import Scanning.Proofs.Lexer.Tokenization
import Scanning.Proofs.ScalarView.Layout

namespace Scanning.Lexer

open IndexSpace Utf8

variable {σ ρ τ : Type} [IndexSpace σ Char] [IndexSpace ρ Char] {subject : σ} {subject' : ρ}
  {chars : List Char} {place place' : Nat → Nat} {k size : Nat} {config : Config}

/-- Tokens of one kind and text that begin at the characters of the same number, and end there. -/
inductive SameToken (size : Nat) (place place' : Nat → Nat) : Token → Token → Prop where
  | intro {start stop : Nat} (hstart : start < stop) (hstop : stop ≤ size) (kind : TokenKind)
      (text : String) :
      SameToken size place place' ⟨kind, text, place start, place stop⟩
        ⟨kind, text, place' start, place' stop⟩

/-- The same complaint of the lexer about the characters of the same number. -/
inductive SameFailure (size : Nat) (place place' : Nat → Nat) : Fault → Fault → Prop where
  | intro {k : Nat} (hk : k ≤ size) (complaint : Complaint) :
      SameFailure size place place' (.parse ⟨.lexer, complaint, some (place k)⟩)
        (.parse ⟨.lexer, complaint, some (place' k)⟩)

/-- The same tokens one by one, or the same failure. -/
inductive SameTokens (size : Nat) (place place' : Nat → Nat) :
    Except Fault (List Token) → Except Fault (List Token) → Prop where
  | ok {tokens tokens' : List Token}
      (htokens : List.Forall₂ (SameToken size place place') tokens tokens') :
      SameTokens size place place' (.ok tokens) (.ok tokens')
  | error {fault fault' : Fault} (hfault : SameFailure size place place' fault fault') :
      SameTokens size place place' (.error fault) (.error fault')

/-- How the next tokens of two subjects agree, from the character number `k` on. -/
inductive SameNext (size : Nat) (place place' : Nat → Nat) (k : Nat) :
    EStateM.Result Fault (Standing τ) (Option Token) →
      EStateM.Result Fault (Standing τ) (Option Token) → Prop where
  | finished (stop : Nat) (memory : τ) :
      SameNext size place place' k (.ok none ⟨place stop, memory⟩) (.ok none ⟨place' stop, memory⟩)
  | token {start stop : Nat} (hk : k ≤ start) (hstart : start < stop) (hstop : stop ≤ size)
      (kind : TokenKind) (text : String) (memory : τ) :
      SameNext size place place' k
        (.ok (some ⟨kind, text, place start, place stop⟩) ⟨place stop, memory⟩)
        (.ok (some ⟨kind, text, place' start, place' stop⟩) ⟨place' stop, memory⟩)
  | failed {fault fault' : Fault} (hfault : SameFailure size place place' fault fault') (stop : Nat)
      (memory : τ) :
      SameNext size place place' k (.error fault ⟨place stop, memory⟩)
        (.error fault' ⟨place' stop, memory⟩)

theorem SameNext.of_le {j : Nat}
    {outcome outcome' : EStateM.Result Fault (Standing τ) (Option Token)}
    (h : SameNext size place place' j outcome outcome') (hk : k ≤ j) :
    SameNext size place place' k outcome outcome' := by
  cases h with
  | finished stop memory => exact .finished stop memory
  | token hj hstart hstop kind text memory =>
    exact .token (Nat.le_trans hk hj) hstart hstop kind text memory
  | failed hfault stop memory => exact .failed hfault stop memory

/-- The next token agrees, also when lexemes are passed over before it. -/
theorem nextKept_agrees (layout : Layout subject chars place)
    (layout' : Layout subject' chars place') (hk : k ≤ chars.length) (config : Config)
    (memory : τ) :
    SameNext chars.length place place' k (nextKept config subject ⟨place k, memory⟩)
      (nextKept config subject' ⟨place' k, memory⟩) := by
  obtain ⟨room, hroom⟩ : ∃ room, chars.length - k = room := ⟨_, rfl⟩
  induction room using Nat.strongRecOn generalizing k with
  | ind room ih =>
    obtain ⟨verdict, hreads⟩ := exists_reads config (chars.drop k)
    have hlexeme : lexeme config subject ⟨place k, memory⟩ = _ := lexeme_of_reads layout hk hreads
    have hlexeme' : lexeme config subject' ⟨place' k, memory⟩ = _ :=
      lexeme_of_reads layout' hk hreads
    cases verdict with
    | finished =>
      rw [nextKept_of_none hlexeme, nextKept_of_none hlexeme']
      exact .finished k memory
    | unterminated =>
      rw [nextKept_of_error hlexeme, nextKept_of_error hlexeme']
      exact .failed (.intro hk _) _ memory
    | unexpected c =>
      rw [nextKept_of_error hlexeme, nextKept_of_error hlexeme']
      exact .failed (.intro hk _) k memory
    | lexeme kind lexeme =>
      obtain ⟨hlt, hle, after, htext⟩ := hreads.exists_piece hk
      cases hdrops : config.drops kind with
      | true =>
        rw [nextKept_of_dropped hlexeme hdrops, nextKept_of_dropped hlexeme' hdrops]
        have hnext := ih (chars.length - (k + lexeme.length)) (by omega) hle rfl
        exact hnext.of_le (by omega)
      | false =>
        rw [nextKept_of_kept hlexeme hdrops (layout.slice_piece hk htext),
          nextKept_of_kept hlexeme' hdrops (layout'.slice_piece hk htext)]
        exact .token (Nat.le_refl k) (by omega) hle kind _ memory

/-- All tokens agree, and so does the failure at their end if there is one. -/
theorem drain_agrees (layout : Layout subject chars place) (layout' : Layout subject' chars place')
    (hk : k ≤ chars.length) (config : Config) (given : Nat) (memory : τ) :
    List.Forall₂ (SameToken chars.length place place')
        (Scanner.drain { config, given } subject ⟨place k, memory⟩).1
        (Scanner.drain { config, given } subject' ⟨place' k, memory⟩).1 ∧
      Option.Rel (SameFailure chars.length place place')
        (faultOf (Scanner.drain { config, given } subject ⟨place k, memory⟩).2)
        (faultOf (Scanner.drain { config, given } subject' ⟨place' k, memory⟩).2) := by
  obtain ⟨room, hroom⟩ : ∃ room, chars.length - k = room := ⟨_, rfl⟩
  induction room using Nat.strongRecOn generalizing k given memory with
  | ind room ih =>
    cases hspent : Scanner.isSpent { config, given } with
    | true =>
      rw [drain_of_isSpent hspent, drain_of_isSpent hspent]
      exact ⟨.nil, .none⟩
    | false =>
      have hnext := nextKept_agrees layout layout' hk config memory
      generalize hkept : nextKept config subject ⟨place k, memory⟩ = outcome at hnext
      generalize hkept' : nextKept config subject' ⟨place' k, memory⟩ = outcome' at hnext
      cases hnext with
      | finished stop memory =>
        rw [drain_of_none rfl hspent hkept, drain_of_none rfl hspent hkept']
        exact ⟨.nil, .none⟩
      | failed hfault stop memory =>
        rw [drain_of_error rfl hspent hkept, drain_of_error rfl hspent hkept']
        exact ⟨.nil, .some hfault⟩
      | @token start stop hstart hlt hstop kind text memory =>
        rw [drain_of_some rfl hspent hkept, drain_of_some rfl hspent hkept']
        have hrest := ih (chars.length - stop) (by omega) hstop (given + 1) memory rfl
        exact ⟨.cons (.intro hlt hstop kind text) hrest.1, hrest.2⟩

/-- Under every configuration two subjects with the same characters give the same tokens, each at
the places where its characters stand in the subject, or the same failure at the same character. -/
theorem tokens_agree (layout : Layout subject chars place) (layout' : Layout subject' chars place')
    (config : Config) :
    SameTokens chars.length place place' (tokens config subject) (tokens config subject') := by
  have hdrain := drain_agrees layout layout' (Nat.zero_le _) config 0 ()
  rw [layout.place_zero, layout'.place_zero] at hdrain
  obtain ⟨htokens, hending⟩ := hdrain
  rw [tokens, tokens, scanAll_eq, scanAll_eq]
  revert hending
  generalize faultOf (Scanner.drain { config } subject (⟨0, ()⟩ : Standing Unit)).2 = ending
  generalize faultOf (Scanner.drain { config } subject' (⟨0, ()⟩ : Standing Unit)).2 = ending'
  intro hending
  cases hending with
  | none => exact .ok htokens
  | some hfault => exact .error hfault

/-- The tokens of the encoding of a text are those of the text, with the number of a character
turned into the length of what is encoded before it. -/
theorem tokenizeBytes_encode (config : Config) (text : String) :
    SameTokens text.length id (byteOffset text.toList) (tokenize config text)
      (tokenizeBytes config (encode text.toList).toArray) := by
  rw [← String.length_toList]
  exact tokens_agree (Sequence.ofText text).layout (ScalarView.layout_encoding text.toList) config

end Scanning.Lexer
