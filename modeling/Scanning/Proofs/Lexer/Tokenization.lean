import Scanning.Lexer.Scan
import Scanning.Proofs.Lexer.Reading

namespace Scanning.Lexer

open IndexSpace Move Unicode

variable {σ τ : Type} [IndexSpace σ Char] {subject : σ} {chars : List Char} {place : Nat → Nat}
  {k : Nat} {memory : τ} {config : Config}

/-- Every lexeme has a character. -/
theorem Rule.Covers.ne_nil {rule : Rule} {first : Char} {rest lexeme after : List Char}
    (hcovers : rule.Covers lexeme after) (hselected : rule.Selected config first rest)
    (htext : first :: rest = lexeme ++ after) : lexeme ≠ [] := by
  have hfirst : (lexeme ++ after).head? = some first := by
    rw [← htext]
    rfl
  cases hcovers with
  | space hrun => exact hrun.ne_nil hfirst hselected.applies
  | comment hrun =>
    apply hrun.ne_nil hfirst
    rw [bne_iff_ne]
    rintro rfl
    exact hselected.wins .space (by decide) isBlank_newline
  | integer hrun hwhole => exact hrun.ne_nil hfirst hselected.applies
  | fraction hrun hdecimals hfraction =>
    exact List.append_ne_nil_of_right_ne_nil _ (List.cons_ne_nil _ _)
  | word hrun => exact hrun.ne_nil hfirst (isWordChar_of_isWordStart hselected.applies)
  | string hquote hbody => exact List.cons_ne_nil _ _
  | operator hmem =>
    rintro rfl
    cases length_of_mem_operators hmem
  | punctuation c => exact List.cons_ne_nil _ _

/-- A lexeme stands at the front of its text. -/
theorem Reads.exists_append {text lexeme : List Char} {kind : TokenKind}
    (h : Reads config text (.lexeme kind lexeme)) :
    lexeme ≠ [] ∧ ∃ after, text = lexeme ++ after := by
  cases h with
  | lexeme hselected hcovers htext => exact ⟨hcovers.ne_nil hselected htext, _, htext⟩

/-- A lexeme in what is left of a text is a piece of the text, and ends behind where it begins. -/
theorem Reads.exists_piece {text lexeme : List Char} {kind : TokenKind} {k : Nat}
    (h : Reads config (text.drop k) (.lexeme kind lexeme)) (hk : k ≤ text.length) :
    k < k + lexeme.length ∧ k + lexeme.length ≤ text.length ∧
      ∃ after, text.drop k = lexeme ++ after := by
  obtain ⟨hne, after, htext⟩ := h.exists_append
  exact ⟨Nat.lt_add_of_pos_right (List.length_pos_iff.2 hne), add_length_le_of_drop_eq hk htext,
    after, htext⟩

/-- The grammar finds something at every boundary. -/
theorem exists_reads (config : Config) (text : List Char) :
    ∃ verdict, Reads config text verdict := by
  obtain ⟨verdict, hreads, -⟩ :=
    lexeme_reads (Sequence.layout ⟨.text, text.toArray⟩) (Nat.zero_le _) config ()
  exact ⟨verdict, hreads⟩

/-- The reader comes to whatever verdict the grammar gives. -/
theorem lexeme_of_reads (layout : Layout subject chars place) (hk : k ≤ chars.length)
    {verdict : Verdict} (h : Reads config (chars.drop k) verdict) :
    lexeme config subject ⟨place k, memory⟩ = verdict.outcome place chars.length k memory := by
  obtain ⟨verdict', hreads, hlexeme⟩ := lexeme_reads layout hk config memory
  rw [h.unique hreads, hlexeme]

section NextKept

variable {standing standing' : Standing τ}

theorem nextKept_of_none (h : lexeme config subject standing = .ok none standing') :
    nextKept config subject standing = .ok none standing' := by
  rw [nextKept]
  split <;> simp_all

theorem nextKept_of_error {fault : Fault}
    (h : lexeme config subject standing = .error fault standing') :
    nextKept config subject standing = .error fault standing' := by
  rw [nextKept]
  split <;> simp_all

theorem nextKept_of_dropped {kind : TokenKind}
    (h : lexeme config subject standing = .ok (some kind) standing')
    (hdrops : config.drops kind = true) :
    nextKept config subject standing = nextKept config subject standing' := by
  rw [nextKept]
  split <;> simp_all

theorem nextKept_of_kept {kind : TokenKind} {text : List Char}
    (h : lexeme config subject standing = .ok (some kind) standing')
    (hdrops : config.drops kind = false)
    (hslice : slice subject standing.position standing'.position = .ok text) :
    nextKept config subject standing =
      .ok (some ⟨kind, String.ofList text, standing.position, standing'.position⟩) standing' := by
  rw [nextKept]
  split <;> simp_all

end NextKept

section Drain

variable {scanner : Scanner} {standing standing' : Standing τ}

theorem drain_of_some (hlive : scanner.finished = false) (hunspent : scanner.isSpent = false)
    {token : Token} (h : nextKept scanner.config subject standing = .ok (some token) standing') :
    scanner.drain subject standing =
      (token :: (Scanner.drain { scanner with given := scanner.given + 1 } subject standing').1,
        (Scanner.drain { scanner with given := scanner.given + 1 } subject standing').2) := by
  have hnext : scanner.next subject standing =
      ({ scanner with given := scanner.given + 1 }, .ok (some token) standing') := by
    simp [Scanner.next, hlive, hunspent, h]
  rw [Scanner.drain]
  split <;> simp_all

theorem drain_of_none (hlive : scanner.finished = false) (hunspent : scanner.isSpent = false)
    (h : nextKept scanner.config subject standing = .ok none standing') :
    scanner.drain subject standing = ([], .ok () standing') := by
  have hnext : scanner.next subject standing =
      ({ scanner with finished := true }, .ok none standing') := by
    simp [Scanner.next, hlive, hunspent, h]
  rw [Scanner.drain]
  split <;> simp_all

theorem drain_of_error (hlive : scanner.finished = false) (hunspent : scanner.isSpent = false)
    {fault : Fault} (h : nextKept scanner.config subject standing = .error fault standing') :
    scanner.drain subject standing = ([], .error fault standing') := by
  have hnext : scanner.next subject standing =
      ({ scanner with finished := true }, .error fault standing') := by
    simp [Scanner.next, hlive, hunspent, h]
  rw [Scanner.drain]
  split <;> simp_all

/-- Where as many tokens were given as may be the scan is over, and nothing moves. -/
theorem drain_of_isSpent (hspent : scanner.isSpent = true) :
    scanner.drain subject standing = ([], .ok () standing) := by
  obtain ⟨scanner', hnext⟩ : ∃ scanner', scanner.next subject standing =
      (scanner', .ok none standing) := by
    cases hlive : scanner.finished with
    | true => exact ⟨scanner, by rw [Scanner.next, if_pos hlive]⟩
    | false =>
      refine ⟨{ scanner with finished := true }, ?_⟩
      rw [Scanner.next, if_neg (Bool.eq_false_iff.1 hlive), if_pos hspent]
  rw [Scanner.drain]
  split <;> simp_all

end Drain

/-- The failure of an outcome, if it is one. -/
def faultOf {ε σ α : Type} : EStateM.Result ε σ α → Option ε
  | .ok _ _ => none
  | .error fault _ => some fault

/-- A scan of a whole subject gives what a new scanner at its start gives. -/
theorem scanAll_eq (config : Config) (subject : σ) :
    scanAll config subject =
      ((Scanner.drain { config } subject ⟨0, ()⟩).1,
        faultOf (Scanner.drain { config } subject ⟨0, ()⟩).2) := by
  rw [scanAll]
  obtain ⟨tokens, ending⟩ := Scanner.drain { config } subject ⟨0, ()⟩
  cases ending <;> rfl

/-- Configurations under which every lexeme becomes a token, however many there are. -/
structure Config.KeepsAll (config : Config) : Prop where
  keepWhitespace : config.keepWhitespace = true
  keepComments : config.keepComments = true
  maxTokens : config.maxTokens = none

theorem Config.KeepsAll.drops (h : config.KeepsAll) (kind : TokenKind) :
    config.drops kind = false := by
  cases kind with
  | space => rw [Config.drops, h.keepWhitespace, Bool.not_true]
  | comment => rw [Config.drops, h.keepComments, Bool.not_true]
  | word | number | string | punct => rfl

theorem Config.KeepsAll.isSpent (h : config.KeepsAll) (given : Nat) :
    Scanner.isSpent { config, given } = false := by
  rw [Scanner.isSpent, h.maxTokens]

/-- The tokens of a text whose first character has the number `start`, and how they end: the grammar
is applied at one boundary after the other. -/
inductive Tokenization (config : Config) : Nat → List Char → List Token → Option Fault → Prop where
  | finished {start : Nat} {text : List Char} (hreads : Reads config text .finished) :
      Tokenization config start text [] none
  | token {start : Nat} {text lexeme after : List Char} {kind : TokenKind} {tokens : List Token}
      {ending : Option Fault} (hreads : Reads config text (.lexeme kind lexeme))
      (htext : text = lexeme ++ after)
      (hrest : Tokenization config (start + lexeme.length) after tokens ending) :
      Tokenization config start text
        (⟨kind, String.ofList lexeme, start, (start + lexeme.length : Nat)⟩ :: tokens) ending
  | unterminated {start : Nat} {text : List Char} (hreads : Reads config text .unterminated) :
      Tokenization config start text [] (some (.parse ⟨.lexer, .unterminatedString, some start⟩))
  | unexpected {start : Nat} {text : List Char} {c : Char}
      (hreads : Reads config text (.unexpected c)) :
      Tokenization config start text []
        (some (.parse ⟨.lexer, .unexpectedCharacter c, some start⟩))

/-- A text has one tokenization under a configuration, with one ending. -/
theorem Tokenization.unique {start : Nat} {text : List Char} {tokens tokens' : List Token}
    {ending ending' : Option Fault} (h : Tokenization config start text tokens ending)
    (h' : Tokenization config start text tokens' ending') :
    (tokens, ending) = (tokens', ending') := by
  induction h generalizing tokens' with
  | finished hreads =>
    cases h' with
    | finished hreads' => rfl
    | token hreads' | unterminated hreads' | unexpected hreads' => cases hreads.unique hreads'
  | token hreads htext hrest ih =>
    cases h' with
    | token hreads' htext' hrest' =>
      cases hreads.unique hreads'
      obtain rfl := List.append_cancel_left (htext.symm.trans htext')
      cases ih hrest'
      rfl
    | finished hreads' | unterminated hreads' | unexpected hreads' => cases hreads.unique hreads'
  | unterminated hreads =>
    cases h' with
    | unterminated hreads' => rfl
    | finished hreads' | token hreads' | unexpected hreads' => cases hreads.unique hreads'
  | unexpected hreads =>
    cases h' with
    | unexpected hreads' =>
      cases hreads.unique hreads'
      rfl
    | finished hreads' | token hreads' | unterminated hreads' => cases hreads.unique hreads'

/-- Draining a scanner applies the grammar until there is no lexeme. -/
theorem drain_tokenization (layout : Layout subject chars id) (hkeeps : config.KeepsAll)
    (hk : k ≤ chars.length) (given : Nat) (memory : τ) :
    Tokenization config k (chars.drop k)
      (Scanner.drain { config, given } subject ⟨k, memory⟩).1
      (faultOf (Scanner.drain { config, given } subject ⟨k, memory⟩).2) := by
  obtain ⟨room, hroom⟩ : ∃ room, chars.length - k = room := ⟨_, rfl⟩
  induction room using Nat.strongRecOn generalizing k given with
  | ind room ih =>
    obtain ⟨verdict, hreads⟩ := exists_reads config (chars.drop k)
    have hlexeme : lexeme config subject ⟨k, memory⟩ = _ := lexeme_of_reads layout hk hreads
    have hunspent := hkeeps.isSpent given
    cases verdict with
    | finished =>
      rw [drain_of_none rfl hunspent (nextKept_of_none hlexeme)]
      exact .finished hreads
    | unterminated =>
      rw [drain_of_error rfl hunspent (nextKept_of_error hlexeme)]
      exact .unterminated hreads
    | unexpected c =>
      rw [drain_of_error rfl hunspent (nextKept_of_error hlexeme)]
      exact .unexpected hreads
    | lexeme kind lexeme =>
      obtain ⟨hlt, hle, after, htext⟩ := hreads.exists_piece hk
      have hslice : slice subject (k : Int) (k + lexeme.length : Nat) = .ok lexeme :=
        layout.slice_piece hk htext
      rw [drain_of_some rfl hunspent (nextKept_of_kept hlexeme (hkeeps.drops kind) hslice)]
      have hrest := ih (chars.length - (k + lexeme.length)) (by omega) hle (given + 1) rfl
      rw [drop_add_of_drop_eq htext] at hrest
      exact .token hreads htext hrest

/-- What a scan that keeps everything gives is the tokenization of the text by the grammar. -/
theorem scanAll_tokenization (hkeeps : config.KeepsAll) (text : String) :
    Tokenization config 0 text.toList (scanAll config (Sequence.ofText text)).1
      (scanAll config (Sequence.ofText text)).2 := by
  rw [scanAll_eq]
  exact drain_tokenization (Sequence.ofText text).layout hkeeps (Nat.zero_le _) 0 ()

/-- The tokens of a text and their ending are those that the grammar gives, and no others. -/
theorem scanAll_eq_iff_tokenization (hkeeps : config.KeepsAll) (text : String) (tokens : List Token)
    (ending : Option Fault) :
    scanAll config (Sequence.ofText text) = (tokens, ending) ↔
      Tokenization config 0 text.toList tokens ending := by
  have hscan := scanAll_tokenization hkeeps text
  constructor
  · intro h
    rw [h] at hscan
    exact hscan
  · intro h
    exact hscan.unique h

/-- A string with an escaped quote in it, and a space. -/
theorem scanAll_eq_iff_tokenization_escaped :
    Config.KeepsAll { keepWhitespace := true, keepComments := true } ∧
      (scanAll { keepWhitespace := true, keepComments := true } (Sequence.ofText "'\\'' ") =
        ([⟨.string, "'\\''", 0, 4⟩, ⟨.space, " ", 4, 5⟩], none) ↔
      Tokenization { keepWhitespace := true, keepComments := true } 0 "'\\'' ".toList
        [⟨.string, "'\\''", 0, 4⟩, ⟨.space, " ", 4, 5⟩] none) :=
  ⟨⟨rfl, rfl, rfl⟩, scanAll_eq_iff_tokenization ⟨rfl, rfl, rfl⟩ _ _ _⟩

/-- The tokens cover a text from the character number `start` up to `stop`: each has a character,
begins where the one before it ends, and shows what stands between its ends. -/
inductive Tiles (text : List Char) : Nat → List Token → Nat → Prop where
  | nil (start : Nat) : Tiles text start [] start
  | cons {start next stop : Nat} {token : Token} {tokens : List Token} (hlt : start < next)
      (hle : next ≤ text.length) (hstart : token.start = start) (hstop : token.stop = next)
      (htext : token.text = String.ofList ((text.take next).drop start))
      (hrest : Tiles text next tokens stop) : Tiles text start (token :: tokens) stop

theorem Tiles.le {text : List Char} {start stop : Nat} {tokens : List Token}
    (h : Tiles text start tokens stop) : start ≤ stop := by
  induction h with
  | nil => exact Nat.le_refl _
  | cons hlt hle hstart hstop htext hrest ih => omega

/-- Put together, the texts of the tokens are the text that they cover. -/
theorem Tiles.join_eq {text : List Char} {start stop : Nat} {tokens : List Token}
    (h : Tiles text start tokens stop) :
    String.join (tokens.map Token.text) = String.ofList ((text.take stop).drop start) := by
  induction h with
  | nil start =>
    rw [List.drop_eq_nil_of_le (by rw [List.length_take]; omega)]
    rfl
  | @cons start next stop token tokens hlt hle hstart hstop htext hrest ih =>
    have hnext := hrest.le
    have hbetween : (text.take stop).take next = text.take next := by
      rw [List.take_take, Nat.min_eq_left hnext]
    have hroom : start ≤ ((text.take stop).take next).length := by
      rw [hbetween, List.length_take]
      omega
    rw [List.map_cons, String.join_cons, ih, htext, ← String.ofList_append, ← hbetween,
      ← List.drop_append_of_le_length hroom, List.take_append_drop]

/-- A scan ends where the text does, or fails with the offset that it has come to. -/
inductive EndsAt (size stop : Nat) : Option Fault → Prop where
  | finished (hstop : stop = size) : EndsAt size stop none
  | failed (complaint : Complaint) (hstop : stop ≤ size) :
      EndsAt size stop (some (.parse ⟨.lexer, complaint, some stop⟩))

/-- The tokens of the grammar cover the text up to where they end. -/
theorem Tokenization.tiles {text rest : List Char} {start : Nat} {tokens : List Token}
    {ending : Option Fault} (h : Tokenization config start rest tokens ending)
    (hstart : start ≤ text.length) (hrest : text.drop start = rest) :
    ∃ stop, Tiles text start tokens stop ∧ EndsAt text.length stop ending := by
  induction h with
  | finished hreads =>
    cases hreads
    obtain rfl := Nat.le_antisymm hstart (List.drop_eq_nil_iff.1 hrest)
    exact ⟨_, .nil _, .finished rfl⟩
  | @token start rest lexeme after kind tokens ending hreads htext hafter ih =>
    obtain ⟨hne, -⟩ := hreads.exists_append
    have hlength := List.length_pos_iff.2 hne
    rw [htext] at hrest
    have hle := add_length_le_of_drop_eq hstart hrest
    obtain ⟨stop, htiles, hending⟩ := ih hle (drop_add_of_drop_eq hrest)
    refine ⟨stop, .cons (by omega) hle rfl rfl ?_ htiles, hending⟩
    rw [List.drop_take, Nat.add_sub_cancel_left, hrest, List.take_left]
  | unterminated hreads => exact ⟨_, .nil _, .failed _ hstart⟩
  | unexpected hreads => exact ⟨_, .nil _, .failed _ hstart⟩

/-- The tokens cover the whole text when the scan comes to the end, and what stands before the
offset of its failure when it fails. -/
def CoversText (text : String) : List Token × Option Fault → Prop
  | (tokens, none) =>
    Tiles text.toList 0 tokens text.length ∧ String.join (tokens.map Token.text) = text
  | (tokens, some fault) =>
    ∃ complaint, ∃ stop : Nat, stop ≤ text.length ∧
      fault = .parse ⟨.lexer, complaint, some stop⟩ ∧ Tiles text.toList 0 tokens stop ∧
      String.join (tokens.map Token.text) = String.ofList (text.toList.take stop)

/-- A scan that keeps everything covers the text: its tokens lie end to end from the start, each has
a character and shows what stands between its offsets, and joined they are the text if the scan
comes to the end. If it fails, they cover what stands in front of the offset of its failure. -/
theorem scanAll_coversText (hkeeps : config.KeepsAll) (text : String) :
    CoversText text (scanAll config (Sequence.ofText text)) := by
  have hscan := scanAll_tokenization hkeeps text
  cases hall : scanAll config (Sequence.ofText text) with
  | mk tokens ending =>
    rw [hall] at hscan
    have hwhole : text.toList.drop 0 = text.toList := List.drop_zero
    obtain ⟨stop, htiles, hending⟩ := hscan.tiles (Nat.zero_le _) hwhole
    have hjoin := htiles.join_eq
    rw [List.drop_zero] at hjoin
    cases hending with
    | finished hstop =>
      subst hstop
      rw [List.take_length, String.ofList_toList] at hjoin
      rw [String.length_toList] at htiles
      exact ⟨htiles, hjoin⟩
    | failed complaint hstop =>
      rw [String.length_toList] at hstop
      exact ⟨complaint, stop, hstop, rfl, htiles, hjoin⟩

/-- A word and a space in front of a string without an end. -/
theorem scanAll_coversText_unclosed :
    Config.KeepsAll { keepWhitespace := true, keepComments := true } ∧
      CoversText "a 'b" (scanAll { keepWhitespace := true, keepComments := true }
        (Sequence.ofText "a 'b")) :=
  ⟨⟨rfl, rfl, rfl⟩, scanAll_coversText ⟨rfl, rfl, rfl⟩ "a 'b"⟩

end Scanning.Lexer
