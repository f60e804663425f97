import Scanning.Proofs.Lexer.Locality

namespace Scanning.Lexer

variable {config : Config} {start k : Nat} {text : List Char} {tokens : List Token}
  {ending : Option Fault}

/-- Whether a token ends at `k` or before. -/
def Token.endsBy (k : Nat) (token : Token) : Bool := token.stop ≤ k

/-- The token with offsets that count from `k` on. -/
def Token.lowered (k : Nat) (token : Token) : Token :=
  { token with start := token.start - k, stop := token.stop - k }

/-- The failure with an offset that counts from `k` on. -/
def loweredFault (k : Nat) : Fault → Fault
  | .parse failure => .parse { failure with offset := failure.offset.map (· - k) }
  | fault => fault

/-- Where a scan that begins at `start` comes to: its beginning, the ends of its tokens, and the
offset of its failure. -/
inductive Boundary (start : Nat) (tokens : List Token) (ending : Option Fault) : Nat → Prop where
  | start : Boundary start tokens ending start
  | stop {k : Nat} {token : Token} (hmem : token ∈ tokens) (hstop : token.stop = k) :
      Boundary start tokens ending k
  | failure {k : Nat} {complaint : Complaint}
      (hfailure : ending = some (.parse ⟨.lexer, complaint, some k⟩)) :
      Boundary start tokens ending k

/-- Every token ends behind the place where the scan begins. -/
theorem Tokenization.start_lt_stop (h : Tokenization config start text tokens ending) :
    ∀ token ∈ tokens, (start : Int) < token.stop := by
  induction h with
  | finished hreads | unterminated hreads | unexpected hreads => simp
  | @token start text lexeme after kind tokens ending hreads htext hrest ih =>
    have hlength := List.length_pos_iff.2 hreads.exists_append.1
    intro token hmem
    obtain rfl | hmem := List.mem_cons.1 hmem
    · dsimp only
      omega
    · have hlater := ih token hmem
      omega

/-- Offsets that count from further on. -/
theorem Tokenization.lowered (h : Tokenization config (start + k) text tokens ending) :
    Tokenization config start text (tokens.map (Token.lowered k))
      (ending.map (loweredFault k)) := by
  have hstart (start : Nat) : ((start + k : Nat) : Int) - k = start := by omega
  generalize hfrom : start + k = origin at h
  induction h generalizing start with
  | finished hreads => exact .finished hreads
  | @token _ text lexeme after kind tokens ending hreads htext hrest ih =>
    subst hfrom
    have hfrom : start + lexeme.length + k = start + k + lexeme.length := by omega
    have hlater := ih hfrom
    have hstop := hstart (start + lexeme.length)
    rw [hfrom] at hstop
    simp only [List.map_cons, Token.lowered, hstart, hstop]
    exact .token hreads htext hlater
  | unterminated hreads =>
    subst hfrom
    simp only [List.map_nil, Option.map_some, loweredFault, hstart]
    exact .unterminated hreads
  | unexpected hreads =>
    subst hfrom
    simp only [List.map_nil, Option.map_some, loweredFault, hstart]
    exact .unexpected hreads

/-- What is before the place `k` gives the tokens that end up to there, and what is behind it gives
the other tokens and the ending. -/
structure Cut (config : Config) (start : Nat) (text : List Char) (tokens : List Token)
    (ending : Option Fault) (k : Nat) : Prop where
  le : start ≤ k
  before : Tokenization config start (text.take (k - start)) (tokens.filter (Token.endsBy k)) none
  behind : Tokenization config k (text.drop (k - start)) (tokens.filter (!Token.endsBy k ·)) ending

/-- A cut at the beginning has nothing before it. -/
theorem Tokenization.cut_start (h : Tokenization config start text tokens ending) :
    Cut config start text tokens ending start := by
  have hnone : tokens.filter (Token.endsBy start) = [] := by
    rw [List.filter_eq_nil_iff]
    intro token hmem
    simpa [Token.endsBy] using h.start_lt_stop token hmem
  have hall : tokens.filter (!Token.endsBy start ·) = tokens := by
    rw [List.filter_eq_self]
    intro token hmem
    simpa [Token.endsBy] using h.start_lt_stop token hmem
  refine ⟨Nat.le_refl start, ?_, ?_⟩
  · rw [Nat.sub_self, hnone]
    exact .finished .finished
  · rw [Nat.sub_self, hall]
    exact h

/-- A lexeme before the cut is read again where its text ends at the cut, because what follows it is
then some of what followed it before. -/
theorem Cut.token {lexeme after : List Char} {kind : TokenKind}
    (hline : '\n' ∉ config.commentPrefix.toList)
    (hreads : Reads config (lexeme ++ after) (.lexeme kind lexeme))
    (hcut : Cut config (start + lexeme.length) after tokens ending k) :
    Cut config start (lexeme ++ after)
      (⟨kind, String.ofList lexeme, start, (start + lexeme.length : Nat)⟩ :: tokens) ending k := by
  obtain ⟨hle, hbefore, hbehind⟩ := hcut
  obtain ⟨room, rfl⟩ := Nat.exists_eq_add_of_le hle
  have hroom : start + lexeme.length + room - start = lexeme.length + room := by omega
  have hkept : Token.endsBy (start + lexeme.length + room)
      ⟨kind, String.ofList lexeme, start, (start + lexeme.length : Nat)⟩ = true := by
    simp only [Token.endsBy, decide_eq_true_eq]
    omega
  rw [Nat.add_sub_cancel_left] at hbefore hbehind
  refine ⟨by omega, ?_, ?_⟩
  · rw [hroom, List.take_length_add_append, List.filter_cons_of_pos hkept]
    have hfront := List.take_prefix room after
    exact .token (hreads.substitute hline (.front hfront) fun _ => hfront) rfl hbefore
  · rw [hroom, List.drop_length_add_append,
      List.filter_cons_of_neg (by simp only [hkept, Bool.not_true, Bool.false_eq_true,
        not_false_eq_true])]
    exact hbehind

/-- Behind the first token, the boundaries are those of the scan that goes on there. -/
theorem Boundary.of_cons {token : Token} {next : Nat}
    (hk : Boundary start (token :: tokens) ending k) (hstart : k ≠ start)
    (hnext : token.stop = next) : Boundary next tokens ending k := by
  cases hk with
  | start => exact absurd rfl hstart
  | stop hmem hstop =>
    obtain rfl | hmem := List.mem_cons.1 hmem
    · obtain rfl : next = k := Int.ofNat_inj.1 (hnext.symm.trans hstop)
      exact .start
    · exact .stop hmem hstop
  | failure hfailure => exact .failure hfailure

/-- At every place that a scan comes to, a tokenization comes apart into two, if the comment prefix
has no line break. -/
theorem Tokenization.cut (hline : '\n' ∉ config.commentPrefix.toList)
    (h : Tokenization config start text tokens ending) (hk : Boundary start tokens ending k) :
    Cut config start text tokens ending k := by
  by_cases hstart : k = start
  · subst hstart
    exact h.cut_start
  induction h with
  | finished hreads =>
    cases hk with
    | start => exact absurd rfl hstart
    | stop hmem => cases hmem
    | failure hfailure => cases hfailure
  | unterminated hreads | unexpected hreads =>
    cases hk with
    | start => exact absurd rfl hstart
    | stop hmem => cases hmem
    | failure hfailure =>
      cases hfailure
      exact absurd rfl hstart
  | @token start text lexeme after kind tokens ending hreads htext hrest ih =>
    subst htext
    apply Cut.token hline hreads
    have hlater := hk.of_cons hstart rfl
    by_cases hnext : k = start + lexeme.length
    · subst hnext
      exact hrest.cut_start
    · exact ih hlater hnext

/-- The scan of a text is what the grammar gives. -/
theorem scanAll_of_tokenization (hkeeps : config.KeepsAll) {text : String}
    (h : Tokenization config 0 text.toList tokens ending) :
    scanAll config (Sequence.ofText text) = (tokens, ending) :=
  (scanAll_tokenization hkeeps text).unique h

/-- Cut where a token ends, at the beginning, or where the scan has failed, the text before the cut
gives the tokens that end up to there and nothing is wrong with it. The text behind the cut gives the
remaining tokens and the same ending, with offsets that count from the cut. -/
theorem scanAll_cut (hkeeps : config.KeepsAll) (hline : '\n' ∉ config.commentPrefix.toList)
    (text : String) {k : Nat}
    (hk : Boundary 0 (scanAll config (Sequence.ofText text)).1
      (scanAll config (Sequence.ofText text)).2 k) :
    scanAll config (Sequence.ofText (String.ofList (text.toList.take k))) =
        ((scanAll config (Sequence.ofText text)).1.filter (Token.endsBy k), none) ∧
      scanAll config (Sequence.ofText (String.ofList (text.toList.drop k))) =
        (((scanAll config (Sequence.ofText text)).1.filter (!Token.endsBy k ·)).map
            (Token.lowered k),
          (scanAll config (Sequence.ofText text)).2.map (loweredFault k)) := by
  obtain ⟨-, hbefore, hbehind⟩ := (scanAll_tokenization hkeeps text).cut hline hk
  rw [Nat.sub_zero] at hbefore hbehind
  have horigin : 0 + k = k := Nat.zero_add k
  constructor
  · apply scanAll_of_tokenization hkeeps
    rw [String.toList_ofList]
    exact hbefore
  · apply scanAll_of_tokenization hkeeps
    rw [String.toList_ofList]
    exact Tokenization.lowered (horigin.symm ▸ hbehind)

/-- The cut falls between a number and the point that it has looked at. -/
theorem scanAll_cut_before_point :
    Config.KeepsAll { keepWhitespace := true, keepComments := true } ∧
      '\n' ∉ (Config.commentPrefix {}).toList ∧
      Boundary 0 [⟨.number, "1", 0, 1⟩, ⟨.punct, ".", 1, 2⟩]
        (some (.parse ⟨.lexer, .unterminatedString, some 2⟩)) 1 ∧
      scanAll { keepWhitespace := true, keepComments := true }
          (Sequence.ofText (String.ofList ("1.'b".toList.take 1))) =
        ([⟨.number, "1", 0, 1⟩], none) ∧
      scanAll { keepWhitespace := true, keepComments := true }
          (Sequence.ofText (String.ofList ("1.'b".toList.drop 1))) =
        ([⟨.punct, ".", 0, 1⟩], some (.parse ⟨.lexer, .unterminatedString, some 1⟩)) := by
  have hscan : scanAll { keepWhitespace := true, keepComments := true } (Sequence.ofText "1.'b") =
      ([⟨.number, "1", 0, 1⟩, ⟨.punct, ".", 1, 2⟩],
        some (.parse ⟨.lexer, .unterminatedString, some 2⟩)) := by decide +kernel
  have hboundary : Boundary 0 [⟨.number, "1", 0, 1⟩, ⟨.punct, ".", 1, 2⟩]
      (some (.parse ⟨.lexer, .unterminatedString, some 2⟩)) 1 := .stop List.mem_cons_self rfl
  have hkeeps : Config.KeepsAll { keepWhitespace := true, keepComments := true } := ⟨rfl, rfl, rfl⟩
  have hcut := scanAll_cut hkeeps (by decide) "1.'b" (k := 1) (by rw [hscan]; exact hboundary)
  rw [hscan] at hcut
  exact ⟨hkeeps, by decide, hboundary, hcut⟩

end Scanning.Lexer
