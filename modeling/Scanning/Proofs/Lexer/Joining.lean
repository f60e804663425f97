import Scanning.Proofs.Lexer.Locality
import Scanning.Proofs.Lexer.Selection

namespace Scanning.Lexer

open Unicode

variable {config : Config} {start : Nat} {text : List Char} {tokens : List Token}
  {ending : Option Fault}

/-- What a token is, wherever it stands. -/
def Token.content (token : Token) : TokenKind × String := (token.kind, token.text)

/-- The text of the token is read as this token when there is nothing else. -/
def Token.StandsAlone (config : Config) (token : Token) : Prop :=
  Reads config token.text.toList (.lexeme token.kind token.text.toList)

/-- The text of every token stands alone. -/
theorem Tokenization.standsAlone (hline : '\n' ∉ config.commentPrefix.toList)
    (h : Tokenization config start text tokens ending) :
    ∀ token ∈ tokens, token.StandsAlone config := by
  induction h with
  | finished hreads | unterminated hreads | unexpected hreads => simp
  | @token start text lexeme after kind tokens ending hreads htext hrest ih =>
    subst htext
    intro token hmem
    obtain rfl | hmem := List.mem_cons.1 hmem
    · have hempty : [] <+: after := List.nil_prefix
      have halone := hreads.substitute hline (.front hempty) fun _ => hempty
      rw [List.append_nil] at halone
      rw [Token.StandsAlone, String.toList_ofList]
      exact halone
    · exact ih token hmem

/-- The texts of the tokens, each on a line of its own below the one before. -/
def linesBelow (tokens : List Token) : List Char :=
  tokens.flatMap fun token => '\n' :: token.text.toList

theorem linesBelow_cons (token : Token) (others : List Token) :
    linesBelow (token :: others) = '\n' :: (token.text.toList ++ linesBelow others) := rfl

/-- What is below a line can stand behind it. -/
theorem substitute_linesBelow (tokens : List Token) : Substitute [] (linesBelow tokens) := by
  cases tokens with
  | nil => exact .front List.nil_prefix
  | cons token others => exact .lineBreak _

theorem toList_intercalate_lines (token : Token) (others : List Token) :
    ("\n".intercalate ((token :: others).map Token.text)).toList =
      token.text.toList ++ linesBelow others := by
  rw [String.toList_intercalate, List.map_map]
  induction others generalizing token with
  | nil => simp [linesBelow, List.intercalate]
  | cons next others ih =>
    have hnext := ih next
    simp only [List.map_cons, List.intercalate_cons_cons] at hnext ⊢
    rw [hnext, linesBelow_cons, List.append_assoc]
    rfl

section Lines

variable {token : Token} {others again : List Token}

/-- A token is read again at the front of its line. -/
theorem tokenization_line (hline : '\n' ∉ config.commentPrefix.toList)
    (halone : token.StandsAlone config) (hspace : token.kind ≠ .space)
    (hbelow : Tokenization config (start + token.text.toList.length) (linesBelow others) again
      none) :
    Tokenization config start (token.text.toList ++ linesBelow others)
      (⟨token.kind, token.text, start, (start + token.text.toList.length : Nat)⟩ :: again)
      none := by
  have hreads : Reads config (token.text.toList ++ [])
      (.lexeme token.kind token.text.toList) := by
    rw [List.append_nil]
    exact halone
  have hagain := hreads.substitute hline (substitute_linesBelow others)
    fun hkind => absurd hkind hspace
  have htoken := Tokenization.token hagain rfl hbelow
  rw [String.ofList_toList] at htoken
  exact htoken

/-- The line break in front of a token is white space of its own. -/
theorem reads_lineBreak (halone : token.StandsAlone config) (hspace : token.kind ≠ .space)
    (others : List Token) :
    Reads config (linesBelow (token :: others)) (.lexeme .space ['\n']) := by
  have hne := halone.exists_append.1
  rw [linesBelow_cons]
  have hselected : Rule.space.Selected config '\n' (token.text.toList ++ linesBelow others) := by
    refine ⟨isBlank_newline, ?_⟩
    intro other hrank
    cases hrank
  refine .lexeme hselected (.space ⟨?_, ?_⟩) rfl
  · rintro c hmem
    rw [List.mem_singleton.1 hmem]
    exact isBlank_newline
  · obtain ⟨first, rest, htext⟩ := List.exists_cons_of_ne_nil hne
    rw [Token.StandsAlone, htext] at halone
    rw [htext]
    rintro c ⟨⟩
    exact halone.not_isBlank hspace

end Lines

/-- Where white space is dropped no token that is asked for is white space. -/
theorem Config.Keeps.ne_space (hdrops : config.keepWhitespace = false) {token : Token}
    (h : config.Keeps token) : token.kind ≠ .space := by
  intro hkind
  have hkeeps := h.1 hkind
  rw [hdrops] at hkeeps
  cases hkeeps

/-- What the tokens are that are asked for. -/
def keptContents (config : Config) (tokens : List Token) : List (TokenKind × String) :=
  (tokens.filter config.Keeps).map Token.content

theorem keptContents_cons {token : Token} (hkept : config.Keeps token) (start stop : Int)
    (others : List Token) :
    keptContents config (⟨token.kind, token.text, start, stop⟩ :: others) =
      token.content :: keptContents config others := by
  have hkept' : config.Keeps ⟨token.kind, token.text, start, stop⟩ := hkept
  rw [keptContents, List.filter_cons_of_pos (by simpa using hkept'), List.map_cons]
  rfl

theorem keptContents_space (hdrops : config.keepWhitespace = false) (text : String)
    (start stop : Int) (others : List Token) :
    keptContents config (⟨.space, text, start, stop⟩ :: others) = keptContents config others := by
  have hdropped : ¬ config.Keeps ⟨.space, text, start, stop⟩ := fun h => h.ne_space hdrops rfl
  rw [keptContents, List.filter_cons_of_neg (by simpa using hdropped)]
  rfl

section Kept

variable (hline : '\n' ∉ config.commentPrefix.toList) (hdrops : config.keepWhitespace = false)

include hline hdrops

/-- Lines below another one give their tokens again; the line breaks between them are dropped. -/
theorem exists_tokenization_linesBelow {kept : List Token}
    (halone : ∀ token ∈ kept, token.StandsAlone config.keepingAll)
    (hkept : ∀ token ∈ kept, config.Keeps token) (start : Nat) :
    ∃ again, Tokenization config.keepingAll start (linesBelow kept) again none ∧
      keptContents config again = kept.map Token.content := by
  induction kept generalizing start with
  | nil => exact ⟨[], .finished .finished, rfl⟩
  | cons token others ih =>
    rw [List.forall_mem_cons] at halone hkept
    have hspace := hkept.1.ne_space hdrops
    obtain ⟨again, hbelow, hcontent⟩ :=
      ih halone.2 hkept.2 (start + 1 + token.text.toList.length)
    have hbreak := reads_lineBreak halone.1 hspace others
    refine ⟨_, .token hbreak rfl (tokenization_line hline halone.1 hspace hbelow), ?_⟩
    rw [keptContents_space hdrops, keptContents_cons hkept.1, hcontent, List.map_cons]

/-- Tokens that stand alone are read again from a text with one of them on each line, and only white
space is read besides. -/
theorem exists_tokenization_lines {kept : List Token}
    (halone : ∀ token ∈ kept, token.StandsAlone config.keepingAll)
    (hkept : ∀ token ∈ kept, config.Keeps token) :
    ∃ again, Tokenization config.keepingAll 0 ("\n".intercalate (kept.map Token.text)).toList again
        none ∧
      keptContents config again = kept.map Token.content := by
  cases kept with
  | nil => exact ⟨[], .finished .finished, rfl⟩
  | cons token others =>
    rw [List.forall_mem_cons] at halone hkept
    obtain ⟨again, hbelow, hcontent⟩ := exists_tokenization_linesBelow hline hdrops halone.2 hkept.2
      (0 + token.text.toList.length)
    have hspace := hkept.1.ne_space hdrops
    rw [toList_intercalate_lines]
    refine ⟨_, tokenization_line hline halone.1 hspace hbelow, ?_⟩
    rw [keptContents_cons hkept.1, hcontent, List.map_cons]

end Kept

/-- Without a limit, tokens are those that are asked for of a tokenization of the whole text. -/
theorem tokenize_eq_ok_iff (hlimit : config.maxTokens = none) (text : String)
    (tokens : List Token) :
    tokenize config text = .ok tokens ↔
      ∃ all, Tokenization config.keepingAll 0 text.toList all none ∧
        all.filter config.Keeps = tokens := by
  have hall := scanAll_tokenization config.keepsAll_keepingAll text
  rw [tokenize, Lexer.tokens, scanAll_eq_filter hlimit]
  constructor
  · intro h
    cases hending : (scanAll config.keepingAll (Sequence.ofText text)).2 with
    | none =>
      rw [hending] at h hall
      exact ⟨_, hall, Except.ok.inj h⟩
    | some fault =>
      rw [hending] at h
      cases h
  · rintro ⟨all, hscan, rfl⟩
    rw [(Prod.mk.inj (hall.unique hscan)).1, (Prod.mk.inj (hall.unique hscan)).2]

/-- The tokens of a text, written one to a line, are read again as the same tokens. Comments may be
kept or not; kept white space would be joined by the line breaks. -/
theorem tokenize_lines (hline : '\n' ∉ config.commentPrefix.toList)
    (hdrops : config.keepWhitespace = false) (hlimit : config.maxTokens = none) {text : String}
    {tokens : List Token} (h : tokenize config text = .ok tokens) :
    ∃ again, tokenize config ("\n".intercalate (tokens.map Token.text)) = .ok again ∧
      again.map Token.content = tokens.map Token.content := by
  obtain ⟨all, hall, rfl⟩ := (tokenize_eq_ok_iff hlimit text tokens).1 h
  have hline' : '\n' ∉ config.keepingAll.commentPrefix.toList := hline
  have halone : ∀ token ∈ all.filter config.Keeps, token.StandsAlone config.keepingAll := by
    intro token hmem
    exact hall.standsAlone hline' token (List.mem_filter.1 hmem).1
  have hkept : ∀ token ∈ all.filter config.Keeps, config.Keeps token := by
    intro token hmem
    exact of_decide_eq_true (List.mem_filter.1 hmem).2
  obtain ⟨again, hagain, hcontent⟩ := exists_tokenization_lines hline hdrops halone hkept
  exact ⟨_, (tokenize_eq_ok_iff hlimit _ _).2 ⟨again, hagain, rfl⟩, hcontent⟩

/-- A number and the point behind it, which are not read as one number on two lines, a comment, and
a string that goes over two lines itself. -/
theorem tokenize_lines_comment_and_point :
    '\n' ∉ (Config.commentPrefix { keepComments := true }).toList ∧
      Config.keepWhitespace { keepComments := true } = false ∧
      Config.maxTokens { keepComments := true } = none ∧
      tokenize { keepComments := true } "1.x#c d\n'a\nb'" =
        .ok [⟨.number, "1", 0, 1⟩, ⟨.punct, ".", 1, 2⟩, ⟨.word, "x", 2, 3⟩,
          ⟨.comment, "#c d", 3, 7⟩, ⟨.string, "'a\nb'", 8, 13⟩] ∧
      ∃ again, tokenize { keepComments := true }
          ("\n".intercalate ["1", ".", "x", "#c d", "'a\nb'"]) = .ok again ∧
        again.map Token.content =
          [(.number, "1"), (.punct, "."), (.word, "x"), (.comment, "#c d"),
            (.string, "'a\nb'")] := by
  have hscan : scanAll { keepComments := true } (Sequence.ofText "1.x#c d\n'a\nb'") =
      ([⟨.number, "1", 0, 1⟩, ⟨.punct, ".", 1, 2⟩, ⟨.word, "x", 2, 3⟩,
        ⟨.comment, "#c d", 3, 7⟩, ⟨.string, "'a\nb'", 8, 13⟩], none) := by decide +kernel
  have htokens : tokenize { keepComments := true } "1.x#c d\n'a\nb'" =
      .ok [⟨.number, "1", 0, 1⟩, ⟨.punct, ".", 1, 2⟩, ⟨.word, "x", 2, 3⟩,
        ⟨.comment, "#c d", 3, 7⟩, ⟨.string, "'a\nb'", 8, 13⟩] := by
    rw [tokenize, tokens, hscan]
  exact ⟨by decide, rfl, rfl, htokens, tokenize_lines (by decide) rfl rfl htokens⟩

end Scanning.Lexer
