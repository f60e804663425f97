import Scanning.Proofs.Lexer.Tokenization

namespace Scanning.Lexer

open IndexSpace Move

variable {σ τ : Type} [IndexSpace σ Char] {subject : σ} {chars : List Char} {place : Nat → Nat}
  {k : Nat} {memory : τ} {config : Config}

/-- The configuration with the same lexemes that keeps them all, however many there are. -/
def Config.keepingAll (config : Config) : Config :=
  { config with keepWhitespace := true, keepComments := true, maxTokens := none }

theorem Config.keepsAll_keepingAll (config : Config) : config.keepingAll.KeepsAll := ⟨rfl, rfl, rfl⟩

theorem lexeme_keepingAll (config : Config) :
    (lexeme config.keepingAll : Move σ τ (Option TokenKind)) = lexeme config := rfl

/-- A token that is asked for: white space and comments are only where the configuration keeps
them. -/
def Config.Keeps (config : Config) (token : Token) : Prop :=
  (token.kind = .space → config.keepWhitespace = true) ∧
    (token.kind = .comment → config.keepComments = true)

instance (config : Config) : DecidablePred config.Keeps := fun _ =>
  inferInstanceAs (Decidable (_ ∧ _))

/-- The tokens that are asked for are those of kinds that are not dropped. -/
theorem Config.keeps_iff (config : Config) (token : Token) :
    config.Keeps token ↔ config.drops token.kind = false := by
  unfold Config.Keeps Config.drops
  cases token.kind <;> simp

/-- How a scan that gives at most so many tokens comes out of the tokens that it would give without
the limit, and their ending. Behind the last token that it may give it ends normally. -/
inductive Limited (memory : τ) (tokens : List Token)
    (ending : EStateM.Result Fault (Standing τ) Unit) :
    Option Nat → List Token → EStateM.Result Fault (Standing τ) Unit → Prop where
  | unlimited : Limited memory tokens ending none tokens ending
  | met {before after : List Token} {last : Token} (htokens : tokens = before ++ last :: after) :
      Limited memory tokens ending (some (before.length + 1)) (before ++ [last])
        (.ok () ⟨last.stop, memory⟩)
  | unmet {most : Nat} (hfew : tokens.length < most) :
      Limited memory tokens ending (some most) tokens ending

namespace Limited

variable {tokens given : List Token} {ending outcome : EStateM.Result Fault (Standing τ) Unit}
  {room : Option Nat}

/-- With no token left to give, only a limit that is not met yet or no limit is possible. -/
theorem nil (hroom : ∀ most ∈ room, 0 < most) : Limited memory [] ending room [] ending := by
  cases room with
  | none => exact .unlimited
  | some most => exact .unmet (hroom most rfl)

/-- The only token that may still be given. -/
theorem last (token : Token) (tokens : List Token)
    (ending : EStateM.Result Fault (Standing τ) Unit) :
    Limited memory (token :: tokens) ending (some 1) [token] (.ok () ⟨token.stop, memory⟩) := by
  have htokens : token :: tokens = [] ++ token :: tokens := rfl
  exact .met htokens

/-- One token more in front, which takes one of those that may be given. -/
theorem cons (token : Token) (h : Limited memory tokens ending room given outcome) :
    Limited memory (token :: tokens) ending (room.map (· + 1)) (token :: given) outcome := by
  cases h with
  | unlimited => exact .unlimited
  | @met before after last htokens =>
    have hmore : token :: tokens = (token :: before) ++ last :: after := by
      rw [htokens, List.cons_append]
    exact .met hmore
  | unmet hfew =>
    apply Limited.unmet
    simp only [List.length_cons]
    omega

/-- Without a limit all tokens are given. -/
theorem eq_of_none (h : Limited memory tokens ending none given outcome) :
    given = tokens ∧ outcome = ending := by
  cases h with
  | unlimited => exact ⟨rfl, rfl⟩

/-- A limit takes away from the end only. -/
theorem prefix_tokens (h : Limited memory tokens ending room given outcome) : given <+: tokens := by
  cases h with
  | unlimited | unmet => exact List.prefix_rfl
  | @met before after last htokens =>
    rw [htokens, List.append_cons before last after]
    exact List.prefix_append (before ++ [last]) after

/-- A limit that some token may be given under leaves the first one. -/
theorem mem_of_cons {token : Token} {others : List Token}
    (h : Limited memory (token :: others) ending room given outcome) : token ∈ given := by
  cases h with
  | unlimited | unmet => exact List.mem_cons_self
  | @met before after last htokens =>
    obtain _ | ⟨first, before⟩ := before
    · rw [(List.cons.inj htokens).1]
      exact List.mem_cons_self
    · rw [(List.cons.inj htokens).1]
      exact List.mem_cons_self

/-- A limit that is not exceeded takes nothing away. -/
theorem eq_of_length_le (h : Limited memory tokens ending room given outcome)
    (hfew : ∀ most ∈ room, tokens.length ≤ most) : given = tokens := by
  cases h with
  | unlimited | unmet => rfl
  | @met before after last htokens =>
    have hlength := hfew _ rfl
    rw [htokens, List.length_append, List.length_cons] at hlength
    obtain rfl := List.length_eq_zero_iff.1 (show after.length = 0 by omega)
    rw [htokens]

/-- A limit brings no failure about. -/
theorem faultOf_eq {fault : Fault} (h : Limited memory tokens ending room given outcome)
    (hfault : faultOf outcome = some fault) : faultOf ending = some fault := by
  cases h with
  | unlimited | unmet => exact hfault
  | met => cases hfault

end Limited

section Scan

variable {standing standing' : Standing τ} {given : Nat}

/-- Places from which the next token is the same are the same to a scanner. -/
theorem drain_congr {scanner : Scanner} (hlive : scanner.finished = false)
    (hunspent : scanner.isSpent = false)
    (h : nextKept scanner.config subject standing = nextKept scanner.config subject standing') :
    scanner.drain subject standing = scanner.drain subject standing' := by
  cases hnext : nextKept scanner.config subject standing' with
  | error fault stop =>
    rw [hnext] at h
    rw [drain_of_error hlive hunspent h, drain_of_error hlive hunspent hnext]
  | ok found stop =>
    rw [hnext] at h
    cases found with
    | none => rw [drain_of_none hlive hunspent h, drain_of_none hlive hunspent hnext]
    | some token => rw [drain_of_some hlive hunspent h, drain_of_some hlive hunspent hnext]

theorem isSpent_eq_false (hroom : ∀ most ∈ config.maxTokens, given < most) :
    Scanner.isSpent { config, given } = false := by
  unfold Scanner.isSpent
  cases hmost : config.maxTokens with
  | none => simp
  | some most =>
    have hlt := hroom most hmost
    simp only [decide_eq_false_iff_not]
    omega

theorem isSpent_eq_true (hmost : config.maxTokens = some given) :
    Scanner.isSpent { config, given } = true := by
  simp [Scanner.isSpent, hmost]

/-- A scanner that may give a token and is not spent by it may give another. -/
theorem room_of_not_spent (hroom : ∀ most ∈ config.maxTokens, given < most)
    (hspent : config.maxTokens ≠ some (given + 1)) : ∀ most ∈ config.maxTokens, given + 1 < most := by
  intro most hmost
  have hne : given + 1 ≠ most := by
    rintro rfl
    exact hspent hmost
  exact Nat.lt_of_le_of_ne (hroom most hmost) hne

/-- One token more that was given is one less that may be. -/
theorem map_room_succ (hmore : ∀ most ∈ config.maxTokens, given + 1 < most) :
    (config.maxTokens.map (· - (given + 1))).map (· + 1) = config.maxTokens.map (· - given) := by
  rw [Option.map_map]
  apply Option.map_congr
  intro most hmost
  have hlt := hmore most hmost
  simp only [Function.comp_apply]
  omega

end Scan

/-- What a scan gives from a place on, when it has given some tokens before and may give more. The
scan that keeps everything need not have begun with it. -/
theorem drain_limited_of_layout (layout : Layout subject chars place) (hk : k ≤ chars.length)
    {given : Nat} (hroom : ∀ most ∈ config.maxTokens, given < most) (given' : Nat) (memory : τ) :
    Limited memory
      ((Scanner.drain { config := config.keepingAll, given := given' } subject
        ⟨place k, memory⟩).1.filter config.Keeps)
      (Scanner.drain { config := config.keepingAll, given := given' } subject ⟨place k, memory⟩).2
      (config.maxTokens.map (· - given))
      (Scanner.drain { config, given } subject ⟨place k, memory⟩).1
      (Scanner.drain { config, given } subject ⟨place k, memory⟩).2 := by
  -- Only the scan that keeps everything counts a lexeme that is dropped, so both counts vary.
  obtain ⟨room, hsize⟩ : ∃ room, chars.length - k = room := ⟨_, rfl⟩
  induction room using Nat.strongRecOn generalizing k given given' with
  | ind room ih =>
    obtain ⟨verdict, hreads⟩ := exists_reads config (chars.drop k)
    have hlexeme : lexeme config subject ⟨place k, memory⟩ = _ := lexeme_of_reads layout hk hreads
    have hall : lexeme config.keepingAll subject ⟨place k, memory⟩ =
        verdict.outcome place chars.length k memory := by
      rw [lexeme_keepingAll]
      exact hlexeme
    have hunspent := isSpent_eq_false hroom
    have hunspent' := config.keepsAll_keepingAll.isSpent given'
    have hleft : ∀ most ∈ config.maxTokens.map (· - given), 0 < most := by
      intro most hmost
      obtain ⟨asked, hasked, rfl⟩ := Option.map_eq_some_iff.1 hmost
      exact Nat.sub_pos_of_lt (hroom asked hasked)
    cases verdict with
    | finished =>
      rw [drain_of_none rfl hunspent (nextKept_of_none hlexeme),
        drain_of_none rfl hunspent' (nextKept_of_none hall)]
      exact .nil hleft
    | unterminated =>
      rw [drain_of_error rfl hunspent (nextKept_of_error hlexeme),
        drain_of_error rfl hunspent' (nextKept_of_error hall)]
      exact .nil hleft
    | unexpected c =>
      rw [drain_of_error rfl hunspent (nextKept_of_error hlexeme),
        drain_of_error rfl hunspent' (nextKept_of_error hall)]
      exact .nil hleft
    | lexeme kind lexeme =>
      obtain ⟨hlt, hle, after, htext⟩ := hreads.exists_piece hk
      have hshorter : chars.length - (k + lexeme.length) < room := by omega
      have hslice := layout.slice_piece hk htext
      rw [drain_of_some rfl hunspent'
        (nextKept_of_kept hall (config.keepsAll_keepingAll.drops kind) hslice)]
      cases hdrops : config.drops kind with
      | true =>
        rw [drain_congr rfl hunspent (nextKept_of_dropped hlexeme hdrops),
          List.filter_cons_of_neg (by simp [Config.keeps_iff, hdrops])]
        exact ih _ hshorter hle hroom (given' + 1) rfl
      | false =>
        rw [drain_of_some rfl hunspent (nextKept_of_kept hlexeme hdrops hslice),
          List.filter_cons_of_pos (by simp [Config.keeps_iff, hdrops])]
        by_cases hspent : config.maxTokens = some (given + 1)
        · rw [drain_of_isSpent (isSpent_eq_true hspent), hspent, Option.map_some,
            Nat.add_sub_cancel_left]
          exact .last _ _ _
        · have hmore := room_of_not_spent hroom hspent
          rw [← map_room_succ hmore]
          exact (ih _ hshorter hle hmore (given' + 1) rfl).cons _

/-- The tokens of a text come out of those of the scan that keeps everything. -/
theorem scanAll_limited (hroom : ∀ most ∈ config.maxTokens, 0 < most) (text : String) :
    ∃ ending outcome, Limited ()
        ((scanAll config.keepingAll (Sequence.ofText text)).1.filter config.Keeps) ending
        config.maxTokens (scanAll config (Sequence.ofText text)).1 outcome ∧
      (scanAll config.keepingAll (Sequence.ofText text)).2 = faultOf ending ∧
      (scanAll config (Sequence.ofText text)).2 = faultOf outcome := by
  have hlimited := drain_limited_of_layout (Sequence.ofText text).layout (Nat.zero_le _) hroom 0 ()
  simp only [Nat.sub_zero, Option.map_id_fun', id_eq] at hlimited
  rw [scanAll_eq, scanAll_eq]
  exact ⟨_, _, hlimited, rfl, rfl⟩

/-- Without a limit a scan gives the tokens that are asked for, and ends as the one that keeps
everything. -/
theorem scanAll_eq_filter (hlimit : config.maxTokens = none) (text : String) :
    scanAll config (Sequence.ofText text) =
      ((scanAll config.keepingAll (Sequence.ofText text)).1.filter config.Keeps,
        (scanAll config.keepingAll (Sequence.ofText text)).2) := by
  have hroom : ∀ most ∈ config.maxTokens, 0 < most := by simp [hlimit]
  obtain ⟨ending, outcome, hlimited, hending, houtcome⟩ := scanAll_limited hroom text
  rw [hlimit] at hlimited
  obtain ⟨htokens, rfl⟩ := hlimited.eq_of_none
  exact Prod.ext htokens (houtcome.trans hending.symm)

/-- A text that is tokenized to its end gives what is asked for if the limit leaves room for it. -/
theorem tokenize_of_tokenization (hroom : ∀ most ∈ config.maxTokens, 0 < most) {text : String}
    {all : List Token} (hall : Tokenization config.keepingAll 0 text.toList all none)
    (hfew : ∀ most ∈ config.maxTokens, (all.filter config.Keeps).length ≤ most) :
    tokenize config text = .ok (all.filter config.Keeps) := by
  obtain ⟨ending, outcome, hlimited, hending, houtcome⟩ := scanAll_limited hroom text
  have hwhole := (scanAll_tokenization config.keepsAll_keepingAll text).unique hall
  rw [(Prod.mk.inj hwhole).1] at hlimited
  have hends : (scanAll config (Sequence.ofText text)).2 = none := by
    rw [houtcome]
    cases hfault : faultOf outcome with
    | none => rfl
    | some fault =>
      have hnone := hending.symm.trans (Prod.mk.inj hwhole).2
      rw [hlimited.faultOf_eq hfault] at hnone
      cases hnone
  have hscan : scanAll config (Sequence.ofText text) = (all.filter config.Keeps, none) :=
    Prod.ext (hlimited.eq_of_length_le hfew) hends
  rw [tokenize, Lexer.tokens, hscan]

/-- A scan of a text fails only with a complaint of the lexer, at a place in the text. -/
theorem scanAll_fault {fault : Fault} (hroom : ∀ most ∈ config.maxTokens, 0 < most) (text : String)
    (h : (scanAll config (Sequence.ofText text)).2 = some fault) :
    ∃ complaint, ∃ stop : Nat, stop ≤ text.toList.length ∧
      fault = .parse ⟨.lexer, complaint, some stop⟩ := by
  obtain ⟨ending, outcome, hlimited, hending, houtcome⟩ := scanAll_limited hroom text
  have hfault := hlimited.faultOf_eq (houtcome.symm.trans h)
  have htokens := scanAll_tokenization config.keepsAll_keepingAll text
  obtain ⟨stop, -, hends⟩ := htokens.tiles (Nat.zero_le _) rfl
  rw [hending, hfault] at hends
  cases hends with
  | failed complaint hstop => exact ⟨complaint, stop, hstop, rfl⟩

/-- A scan gives the tokens that are asked for among those of the scan that keeps everything, and ends
as that one does. A scan with a limit gives the first so many of these and ends normally behind the
last, whatever would follow; where there are fewer it ends as it would without the limit. -/
theorem drain_limited (haccepted : config.Accepted) (text : String) :
    Limited ()
      ((Scanner.drain { config := config.keepingAll } (Sequence.ofText text)
        ⟨0, ()⟩).1.filter config.Keeps)
      (Scanner.drain { config := config.keepingAll } (Sequence.ofText text) ⟨0, ()⟩).2
      config.maxTokens
      (Scanner.drain { config } (Sequence.ofText text) ⟨0, ()⟩).1
      (Scanner.drain { config } (Sequence.ofText text) ⟨0, ()⟩).2 := by
  have hroom : ∀ most ∈ config.maxTokens, 0 < most := haccepted.2
  have hlimited := drain_limited_of_layout (Sequence.ofText text).layout (Nat.zero_le _) hroom 0 ()
  simpa using hlimited

/-- One token is asked for, and the string without an end behind it is never come to. -/
theorem drain_limited_before_unclosed :
    Config.Accepted { maxTokens := some 1 } ∧
      Limited ()
        ((Scanner.drain { config := Config.keepingAll { maxTokens := some 1 } }
          (Sequence.ofText "a 'b") ⟨0, ()⟩).1.filter (Config.Keeps { maxTokens := some 1 }))
        (Scanner.drain { config := Config.keepingAll { maxTokens := some 1 } }
          (Sequence.ofText "a 'b") ⟨0, ()⟩).2
        (some 1)
        (Scanner.drain { config := { maxTokens := some 1 } } (Sequence.ofText "a 'b") ⟨0, ()⟩).1
        (Scanner.drain { config := { maxTokens := some 1 } } (Sequence.ofText "a 'b") ⟨0, ()⟩).2 := by
  have haccepted : Config.Accepted { maxTokens := some 1 } := by
    refine ⟨by decide, ?_⟩
    simp
  exact ⟨haccepted, drain_limited haccepted "a 'b"⟩

end Scanning.Lexer
