import Scanning.Proofs.Layout.Taking
import Scanning.Proofs.Lexer.Grammar

namespace Scanning.Lexer

open IndexSpace Move Unicode

variable {σ τ : Type} [IndexSpace σ Char] {subject : σ} {chars : List Char} {place : Nat → Nat}
  {k : Nat} {memory : τ} {config : Config}

/-- No closing quote ends a string whose opening quote is in front of the text. -/
def Unclosed (quote : Char) (text : List Char) : Prop :=
  ∀ body rest, quote ≠ '\\' → Enclosed quote body → text ≠ body ++ quote :: rest

theorem unclosed_nil (quote : Char) : Unclosed quote [] := by
  intro body rest _ _ htext
  exact List.append_ne_nil_of_right_ne_nil body (List.cons_ne_nil _ _) htext.symm

/-- Behind a backslash and the character that it takes, a string goes on as before. -/
theorem unclosed_backslash {quote : Char} {text : List Char}
    (h : ∀ c rest, text = c :: rest → Unclosed quote rest) : Unclosed quote ('\\' :: text) := by
  intro body rest hquote hbody htext
  cases hbody with
  | nil => exact hquote (List.cons.inj htext).1.symm
  | plain hbackslash _ _ => exact hbackslash (List.cons.inj htext).1.symm
  | escape c hbody => exact h c _ (List.cons.inj htext).2 _ rest hquote hbody rfl

/-- A character that is neither a backslash nor the quote closes nothing. -/
theorem Unclosed.plain {quote c : Char} {text : List Char} (h : Unclosed quote text)
    (hbackslash : c ≠ '\\') (hquote : c ≠ quote) : Unclosed quote (c :: text) := by
  intro body rest hquote' hbody htext
  cases hbody with
  | nil => exact hquote (List.cons.inj htext).1
  | plain _ _ hbody => exact h _ rest hquote' hbody (List.cons.inj htext).2
  | escape c hbody => exact hbackslash (List.cons.inj htext).1

/-- No lexeme of the string rule begins with an opening quote that nothing closes. -/
theorem Unclosed.not_covers {quote : Char} {text : List Char} (h : Unclosed quote text)
    (lexeme after : List Char) (htext : quote :: text = lexeme ++ after) :
    ¬ Rule.string.Covers lexeme after := by
  intro hcovers
  cases hcovers with
  | string hquote hbody =>
    obtain ⟨rfl, htail⟩ := List.cons.inj htext
    refine h _ after hquote hbody (htail.trans ?_)
    exact List.append_assoc _ [quote] after

section CloseString

variable {quote c d : Char} {start p next beyond : Int}

theorem closeString_end (htake : takeAt subject p = .ok none) :
    closeString quote start subject ⟨p, memory⟩ = .error (unterminated start) ⟨p, memory⟩ := by
  rw [closeString]
  split <;> simp_all

theorem closeString_close (htake : takeAt subject p = .ok (some (quote, next)))
    (hquote : quote ≠ '\\') :
    closeString quote start subject ⟨p, memory⟩ = .ok () ⟨next, memory⟩ := by
  rw [closeString]
  split <;> simp_all

theorem closeString_plain (htake : takeAt subject p = .ok (some (c, next))) (hbackslash : c ≠ '\\')
    (hquote : c ≠ quote) :
    closeString quote start subject ⟨p, memory⟩ =
      closeString quote start subject ⟨next, memory⟩ := by
  rw [closeString]
  split <;> simp_all

theorem closeString_escape_end (htake : takeAt subject p = .ok (some ('\\', next)))
    (hend : takeAt subject next = .ok none) :
    closeString quote start subject ⟨p, memory⟩ = .error (unterminated start) ⟨next, memory⟩ := by
  rw [closeString]
  split <;> simp_all
  split <;> simp_all

theorem closeString_escape (htake : takeAt subject p = .ok (some ('\\', next)))
    (hescaped : takeAt subject next = .ok (some (d, beyond))) :
    closeString quote start subject ⟨p, memory⟩ =
      closeString quote start subject ⟨beyond, memory⟩ := by
  rw [closeString]
  split <;> simp_all
  split <;> simp_all

end CloseString

/-- Closing a string goes behind its closing quote, or to the end if it has none. -/
theorem closeString_eq (layout : Layout subject chars place) (hk : k ≤ chars.length) (quote : Char)
    (start : Int) (memory : τ) :
    (∃ body rest, quote ≠ '\\' ∧ Enclosed quote body ∧ chars.drop k = body ++ quote :: rest ∧
      closeString quote start subject ⟨place k, memory⟩ =
        .ok () ⟨place (k + body.length + 1), memory⟩) ∨
    (Unclosed quote (chars.drop k) ∧ closeString quote start subject ⟨place k, memory⟩ =
      .error (unterminated start) ⟨place chars.length, memory⟩) := by
  -- A backslash leaves two characters behind at once, so the induction is on how many are left.
  obtain ⟨room, hroom⟩ : ∃ room, chars.length - k = room := ⟨_, rfl⟩
  induction room using Nat.strongRecOn generalizing k with
  | ind room ih =>
    by_cases hend : k = chars.length
    · subst hend
      rw [List.drop_length, closeString_end layout.takeAt_end]
      exact .inr ⟨unclosed_nil quote, rfl⟩
    have htake := layout.takeAt_eq (k := k) (by omega)
    have hdrop := List.drop_eq_getElem_cons (i := k) (l := chars) (by omega)
    rw [hdrop]
    generalize chars[k] = c at htake hdrop
    by_cases hbackslash : c = '\\'
    · subst hbackslash
      by_cases hend' : k + 1 = chars.length
      · have htake' := layout.takeAt_end
        rw [← hend'] at htake'
        rw [closeString_escape_end htake htake', hend', List.drop_length]
        exact .inr ⟨unclosed_backslash fun _ _ h => absurd h.symm (List.cons_ne_nil _ _), rfl⟩
      have htake' := layout.takeAt_eq (k := k + 1) (by omega)
      rw [closeString_escape htake htake', List.drop_eq_getElem_cons (by omega)]
      obtain ⟨body, rest, hquote, hbody, htext, hclose⟩ | ⟨hopen, hclose⟩ :=
        ih (chars.length - (k + 1 + 1)) (by omega) (by omega) rfl
      · refine .inl ⟨'\\' :: chars[k + 1] :: body, rest, hquote, .escape _ hbody, ?_, ?_⟩
        · rw [htext]
          rfl
        · rw [hclose, List.length_cons, List.length_cons,
            show k + 1 + 1 + body.length + 1 = k + (body.length + 1 + 1) + 1 by omega]
      · refine .inr ⟨?_, hclose⟩
        apply unclosed_backslash
        intro c rest h
        rw [← (List.cons.inj h).2]
        exact hopen
    by_cases hquote : c = quote
    · subst hquote
      exact .inl ⟨[], chars.drop (k + 1), hbackslash, .nil, rfl, closeString_close htake hbackslash⟩
    rw [closeString_plain htake hbackslash hquote]
    obtain ⟨body, rest, hquote', hbody, htext, hclose⟩ | ⟨hopen, hclose⟩ :=
      ih (chars.length - (k + 1)) (by omega) (by omega) rfl
    · refine .inl ⟨c :: body, rest, hquote', .plain hbackslash hquote hbody, ?_, ?_⟩
      · rw [htext]
        rfl
      · rw [hclose, List.length_cons,
          show k + 1 + body.length + 1 = k + (body.length + 1) + 1 by omega]
    · exact .inr ⟨hopen.plain hbackslash hquote, hclose⟩

/-- Advancing over a class goes behind the longest run of it. -/
theorem advanceOver_run (layout : Layout subject chars place) (hk : k ≤ chars.length)
    (inClass : Char → Bool) (memory : τ) :
    ∃ lexeme rest, chars.drop k = lexeme ++ rest ∧ LongestRun inClass lexeme rest ∧
      advanceOver inClass subject ⟨place k, memory⟩ =
        .ok () ⟨place (k + lexeme.length), memory⟩ :=
  ⟨(chars.drop k).takeWhile inClass, (chars.drop k).dropWhile inClass,
    List.takeWhile_append_dropWhile.symm, longestRun_takeWhile inClass (chars.drop k),
    layout.advanceOver_eq hk inClass⟩

/-- A number covers its digits, and a point only if a digit follows. -/
theorem number_covers (layout : Layout subject chars place) (hk : k ≤ chars.length)
    (memory : τ) :
    ∃ lexeme rest, chars.drop k = lexeme ++ rest ∧ Rule.number.Covers lexeme rest ∧
      number subject ⟨place k, memory⟩ = .ok () ⟨place (k + lexeme.length), memory⟩ := by
  obtain ⟨digits, rest, htext, hrun, hdigits⟩ := advanceOver_run layout hk isDigit memory
  have hle := add_length_le_of_drop_eq hk htext
  have hdrop := drop_add_of_drop_eq htext
  have hpair : peek2 subject ⟨place (k + digits.length), memory⟩ = _ := layout.peek2_eq hle
  rw [hdrop] at hpair
  rw [number, bind_of_ok hdigits, bind_of_ok hpair]
  by_cases hpoint : ∃ digit after, rest = '.' :: digit :: after ∧ isDigit digit = true
  · obtain ⟨digit, after, rfl, hdigit⟩ := hpoint
    have hlt := lt_length_of_drop_eq hdrop
    have hdrop' : chars.drop (k + digits.length + 1) = digit :: after :=
      drop_add_of_drop_eq (show chars.drop (k + digits.length) = ['.'] ++ digit :: after from hdrop)
    obtain ⟨decimals, rest, htext', hrun', hdecimals⟩ :=
      advanceOver_run layout (k := k + digits.length + 1) (by omega) isDigit memory
    rw [hdrop'] at htext'
    refine ⟨digits ++ '.' :: decimals, rest, ?_, .fraction ?_ ?_ hrun', ?_⟩
    · rw [htext, htext', List.append_assoc]
      rfl
    · rw [← htext']
      exact hrun
    · exact hrun'.ne_nil (by rw [← htext']; rfl) hdigit
    · simp only [firstTwo, hdigit, beq_self_eq_true, Bool.and_self, ↓reduceIte]
      rw [bind_of_ok (layout.advance_eq hlt), hdecimals, List.length_append, List.length_cons,
        show k + digits.length + 1 + decimals.length = k + (digits.length + (decimals.length + 1))
          by omega]
  · refine ⟨digits, rest, htext, .integer hrun ?_, ?_⟩
    · intro digit after hafter
      apply Bool.eq_false_iff.2
      intro hdigit
      exact hpoint ⟨digit, after, hafter, hdigit⟩
    · cases hpair : firstTwo rest with
      | none => rfl
      | some pair =>
        obtain ⟨point, digit⟩ := pair
        obtain ⟨after, rfl⟩ := firstTwo_eq_some hpair
        have hother : (point == '.' && isDigit digit) = false := by
          apply Bool.eq_false_iff.2
          intro hboth
          rw [Bool.and_eq_true, beq_iff_eq] at hboth
          exact hpoint ⟨digit, after, by rw [hboth.1], hboth.2⟩
        simp only [hother, Bool.false_eq_true, ↓reduceIte]
        rfl

/-- In front of a character the reader of strings passes over the opening quote and looks for the
closing one. -/
theorem string_eq (layout : Layout subject chars place) (hk : k < chars.length) (quote : Char)
    (memory : τ) :
    string quote subject ⟨place k, memory⟩ =
      closeString quote (place k) subject ⟨place (k + 1), memory⟩ := by
  have hstart : position subject ⟨place k, memory⟩ =
      .ok (place k : Int) (⟨place k, memory⟩ : Standing τ) := rfl
  rw [string, bind_of_ok hstart]
  exact bind_of_ok (layout.advance_eq hk)

/-- The first of the lists that the text goes on with is taken. -/
theorem readAnyPrefix_eq (layout : Layout subject chars place) (hk : k ≤ chars.length)
    (lists : List (List Char)) (memory : τ) :
    (∃ list ∈ lists, ∃ rest, chars.drop k = list ++ rest ∧
      readAnyPrefix lists subject ⟨place k, memory⟩ =
        .ok true ⟨place (k + list.length), memory⟩) ∨
    ((∀ list ∈ lists, ¬ list <+: chars.drop k) ∧
      readAnyPrefix lists subject ⟨place k, memory⟩ = .ok false ⟨place k, memory⟩) := by
  induction lists with
  | nil => exact .inr ⟨fun _ h => absurd h List.not_mem_nil, rfl⟩
  | cons list others ih =>
    have hread : readPrefix list subject ⟨place k, memory⟩ = _ := layout.readPrefix_eq hk list
    by_cases hgoes : goesOn (chars.drop k) list = true
    · obtain ⟨rest, hrest⟩ := goesOn_iff.1 hgoes
      rw [if_pos hgoes] at hread
      refine .inl ⟨list, List.mem_cons_self, rest, hrest.symm, ?_⟩
      rw [readAnyPrefix, bind_of_ok hread]
      rfl
    · rw [if_neg hgoes] at hread
      rw [readAnyPrefix, bind_of_ok hread]
      obtain ⟨other, hmem, rest, htext, hothers⟩ | ⟨hnone, hothers⟩ := ih
      · exact .inl ⟨other, List.mem_cons_of_mem _ hmem, rest, htext, hothers⟩
      · refine .inr ⟨?_, hothers⟩
        intro other hmem
        obtain rfl | hmem := List.mem_cons.1 hmem
        · exact fun hfront => hgoes (goesOn_iff.2 hfront)
        · exact hnone other hmem

/-- How reading a lexeme at the character number `k` ends for what the grammar finds there. -/
def Verdict.outcome (place : Nat → Nat) (size k : Nat) (memory : τ) :
    Verdict → EStateM.Result Fault (Standing τ) (Option TokenKind)
  | finished => .ok none ⟨place k, memory⟩
  | lexeme kind chars => .ok (some kind) ⟨place (k + chars.length), memory⟩
  | unterminated => .error (Lexer.unterminated (place k)) ⟨place size, memory⟩
  | unexpected c =>
    .error (.parse ⟨.lexer, .unexpectedCharacter c, some (place k)⟩) ⟨place k, memory⟩

/-- An outcome behind a lexeme of the rule, with the kind of the rule. -/
def Takes (place : Nat → Nat) (k : Nat) (memory : τ) (rule : Rule) (text : List Char)
    (outcome : EStateM.Result Fault (Standing τ) TokenKind) : Prop :=
  ∃ lexeme after, text = lexeme ++ after ∧ rule.Covers lexeme after ∧
    outcome = .ok rule.kind ⟨place (k + lexeme.length), memory⟩

section LexemeFrom

variable {first : Char} {rest : List Char}

/-- Looking for a comment tells whether the rule for comments applies. -/
theorem startsWith_comment (layout : Layout subject chars place)
    (hdrop : chars.drop k = first :: rest) (config : Config) (memory : τ) :
    ∃ found, startsWith config.commentPrefix.toList subject ⟨place k, memory⟩ =
        .ok found ⟨place k, memory⟩ ∧
      (found = true ↔ Rule.comment.Applies config first rest) := by
  refine ⟨_, layout.startsWith_eq (Nat.le_of_lt (lt_length_of_drop_eq hdrop)) _, ?_⟩
  rw [goesOn_iff, hdrop]
  rfl

/-- No operator is taken where the rule for operators does not apply. -/
theorem readAnyPrefix_none (layout : Layout subject chars place)
    (hdrop : chars.drop k = first :: rest) (memory : τ)
    (hnone : ¬ Rule.operator.Applies config first rest) :
    readAnyPrefix operators subject ⟨place k, memory⟩ = .ok false ⟨place k, memory⟩ := by
  have hlt := lt_length_of_drop_eq hdrop
  obtain ⟨operator, hmem, after, htext, -⟩ | ⟨-, hmove⟩ :=
    readAnyPrefix_eq layout (Nat.le_of_lt hlt) operators memory
  · rw [hdrop] at htext
    exact absurd ⟨operator, hmem, after, htext.symm⟩ hnone
  · exact hmove

/-- The first character is taken if it is in the class. -/
theorem popWhere_first (layout : Layout subject chars place)
    (hdrop : chars.drop k = first :: rest) (memory : τ) (inClass : Char → Bool) :
    popWhere (fun c => return inClass c) subject ⟨place k, memory⟩ =
      if inClass first then .ok (some first) ⟨place (k + 1), memory⟩
      else .ok none ⟨place k, memory⟩ := by
  have hlt := lt_length_of_drop_eq hdrop
  rw [List.drop_eq_getElem_cons hlt] at hdrop
  rw [layout.popWhere_inClass hlt, (List.cons.inj hdrop).1]

section Branches

variable (layout : Layout subject chars place) (hdrop : chars.drop k = first :: rest) (memory : τ)

include layout hdrop

/-- Where the rule for white space is selected the reader takes the longest run of it. -/
theorem takes_space (hselected : Rule.space.Selected config first rest) :
    Takes place k memory .space (first :: rest)
      (lexemeFrom config first subject ⟨place k, memory⟩) := by
  have hk := Nat.le_of_lt (lt_length_of_drop_eq hdrop)
  obtain ⟨lexeme, after, htext, hrun, hmove⟩ := advanceOver_run layout hk isBlank memory
  refine ⟨lexeme, after, hdrop ▸ htext, .space hrun, ?_⟩
  have hblank : isBlank first = true := hselected.applies
  rw [lexemeFrom, if_pos hblank, bind_of_ok hmove]
  rfl

theorem takes_comment (hselected : Rule.comment.Selected config first rest) :
    Takes place k memory .comment (first :: rest)
      (lexemeFrom config first subject ⟨place k, memory⟩) := by
  have hk := Nat.le_of_lt (lt_length_of_drop_eq hdrop)
  obtain ⟨found, hlook, hfound⟩ := startsWith_comment layout hdrop config memory
  obtain ⟨lexeme, after, htext, hrun, hmove⟩ := advanceOver_run layout hk (· != '\n') memory
  refine ⟨lexeme, after, hdrop ▸ htext, .comment hrun, ?_⟩
  rw [lexemeFrom, if_neg (hselected.not_isBlank (by decide)), bind_of_ok hlook,
    if_pos (hfound.2 hselected.applies), bind_of_ok hmove]
  rfl

theorem takes_number (hselected : Rule.number.Selected config first rest) :
    Takes place k memory .number (first :: rest)
      (lexemeFrom config first subject ⟨place k, memory⟩) := by
  have hk := Nat.le_of_lt (lt_length_of_drop_eq hdrop)
  obtain ⟨found, hlook, hfound⟩ := startsWith_comment layout hdrop config memory
  obtain ⟨lexeme, after, htext, hcovers, hmove⟩ := number_covers layout hk memory
  refine ⟨lexeme, after, hdrop ▸ htext, hcovers, ?_⟩
  have hdigit : isDigit first = true := hselected.applies
  rw [lexemeFrom, if_neg (hselected.not_isBlank (by decide)), bind_of_ok hlook,
    if_neg (mt hfound.1 (hselected.not_comment (by decide))), if_pos hdigit, bind_of_ok hmove]
  rfl

theorem takes_word (hselected : Rule.word.Selected config first rest) :
    Takes place k memory .word (first :: rest)
      (lexemeFrom config first subject ⟨place k, memory⟩) := by
  have hk := Nat.le_of_lt (lt_length_of_drop_eq hdrop)
  obtain ⟨found, hlook, hfound⟩ := startsWith_comment layout hdrop config memory
  obtain ⟨lexeme, after, htext, hrun, hmove⟩ := advanceOver_run layout hk isWordChar memory
  refine ⟨lexeme, after, hdrop ▸ htext, .word hrun, ?_⟩
  have hletter : isWordStart first = true := hselected.applies
  rw [lexemeFrom, if_neg (hselected.not_isBlank (by decide)), bind_of_ok hlook,
    if_neg (mt hfound.1 (hselected.not_comment (by decide))),
    if_neg (hselected.not_isDigit (by decide)), if_pos hletter, bind_of_ok hmove]
  rfl

/-- A string is taken through its closing quote, or is complained about at its opening one. -/
theorem takes_string (hselected : Rule.string.Selected config first rest) :
    Takes place k memory .string (first :: rest)
        (lexemeFrom config first subject ⟨place k, memory⟩) ∨
      (∀ lexeme after, first :: rest = lexeme ++ after → ¬ Rule.string.Covers lexeme after) ∧
        lexemeFrom config first subject ⟨place k, memory⟩ =
          .error (unterminated (place k)) ⟨place chars.length, memory⟩ := by
  have hlt := lt_length_of_drop_eq hdrop
  have hdrop' : chars.drop (k + 1) = rest :=
    drop_add_of_drop_eq (show chars.drop k = [first] ++ rest from hdrop)
  obtain ⟨found, hlook, hfound⟩ := startsWith_comment layout hdrop config memory
  have hopened : string first subject ⟨place k, memory⟩ = _ := string_eq layout hlt first memory
  rw [lexemeFrom, if_neg (hselected.not_isBlank (by decide)), bind_of_ok hlook,
    if_neg (mt hfound.1 (hselected.not_comment (by decide))),
    if_neg (hselected.not_isDigit (by decide)), if_neg (hselected.not_isWordStart (by decide)),
    if_pos (List.contains_iff_mem.2 hselected.applies)]
  obtain ⟨body, after, hquote, hbody, htext, hclose⟩ | ⟨hopen, hclose⟩ :=
    closeString_eq layout (k := k + 1) (by omega) first (place k) memory
  · rw [hdrop'] at htext
    refine .inl ⟨first :: (body ++ [first]), after, ?_, .string hquote hbody, ?_⟩
    · rw [htext, List.cons_append, List.append_assoc]
      rfl
    · rw [bind_of_ok (hopened.trans hclose), List.length_cons, List.length_append,
        List.length_singleton, show k + 1 + body.length + 1 = k + (body.length + 1 + 1) by omega]
      rfl
  · rw [hdrop'] at hopen
    exact .inr ⟨hopen.not_covers, bind_of_error (hopened.trans hclose)⟩

theorem takes_operator (hselected : Rule.operator.Selected config first rest) :
    Takes place k memory .operator (first :: rest)
      (lexemeFrom config first subject ⟨place k, memory⟩) := by
  have hlt := lt_length_of_drop_eq hdrop
  obtain ⟨found, hlook, hfound⟩ := startsWith_comment layout hdrop config memory
  obtain ⟨operator, hmem, after, htext, hmove⟩ | ⟨hnone, -⟩ :=
    readAnyPrefix_eq layout (Nat.le_of_lt hlt) operators memory
  · refine ⟨operator, after, hdrop ▸ htext, .operator hmem, ?_⟩
    rw [lexemeFrom, if_neg (hselected.not_isBlank (by decide)), bind_of_ok hlook,
      if_neg (mt hfound.1 (hselected.not_comment (by decide))),
      if_neg (hselected.not_isDigit (by decide)), if_neg (hselected.not_isWordStart (by decide)),
      if_neg (hselected.not_quote (by decide)), bind_of_ok hmove]
    rfl
  · rw [hdrop] at hnone
    obtain ⟨operator, hmem, hfront⟩ := hselected.applies
    exact absurd hfront (hnone operator hmem)

theorem takes_punctuation (hselected : Rule.punctuation.Selected config first rest) :
    Takes place k memory .punctuation (first :: rest)
      (lexemeFrom config first subject ⟨place k, memory⟩) := by
  obtain ⟨found, hlook, hfound⟩ := startsWith_comment layout hdrop config memory
  have hmove := readAnyPrefix_none layout hdrop memory (hselected.wins .operator (by decide))
  have hpop := popWhere_first layout hdrop memory config.punctuation.toList.contains
  rw [if_pos (List.contains_iff_mem.2 hselected.applies)] at hpop
  refine ⟨[first], rest, rfl, .punctuation first, ?_⟩
  rw [lexemeFrom, if_neg (hselected.not_isBlank (by decide)), bind_of_ok hlook,
    if_neg (mt hfound.1 (hselected.not_comment (by decide))),
    if_neg (hselected.not_isDigit (by decide)), if_neg (hselected.not_isWordStart (by decide)),
    if_neg (hselected.not_quote (by decide)), bind_of_ok hmove, if_neg Bool.false_ne_true,
    bind_of_ok hpop]
  rfl

/-- Where no rule applies, the character is complained about and the cursor stays. -/
theorem lexemeFrom_unexpected (hnone : ∀ rule : Rule, ¬ rule.Applies config first rest) :
    lexemeFrom config first subject ⟨place k, memory⟩ =
      .error (.parse ⟨.lexer, .unexpectedCharacter first, some (place k)⟩) ⟨place k, memory⟩ := by
  obtain ⟨found, hlook, hfound⟩ := startsWith_comment layout hdrop config memory
  have hblank : ¬ isBlank first = true := hnone .space
  have hdigit : ¬ isDigit first = true := hnone .number
  have hletter : ¬ isWordStart first = true := hnone .word
  have hquote : ¬ config.quoteChars.toList.contains first = true :=
    mt List.contains_iff_mem.1 (hnone .string)
  have hmove := readAnyPrefix_none layout hdrop memory (hnone .operator)
  have hpop := popWhere_first layout hdrop memory config.punctuation.toList.contains
  rw [if_neg (mt List.contains_iff_mem.1 (hnone .punctuation))] at hpop
  rw [lexemeFrom, if_neg hblank, bind_of_ok hlook, if_neg (mt hfound.1 (hnone .comment)),
    if_neg hdigit, if_neg hletter, if_neg hquote, bind_of_ok hmove, if_neg Bool.false_ne_true,
    bind_of_ok hpop]
  rfl

end Branches

/-- A lexeme of the selected rule is what the grammar reads. -/
theorem reads_of_takes {rule : Rule} {size : Nat}
    (hselected : rule.Selected config first rest)
    (htakes : Takes place k memory rule (first :: rest)
      (lexemeFrom config first subject ⟨place k, memory⟩)) :
    ∃ verdict, Reads config (first :: rest) verdict ∧
      (some <$> lexemeFrom config first) subject ⟨place k, memory⟩ =
        verdict.outcome place size k memory := by
  obtain ⟨lexeme, after, htext, hcovers, hread⟩ := htakes
  refine ⟨.lexeme rule.kind lexeme, .lexeme hselected hcovers htext, ?_⟩
  exact map_eq_ok.2 ⟨rule.kind, hread, rfl⟩

/-- In front of a character the reader comes to what the grammar finds there: a lexeme, a string
without an end, or a character that begins nothing. -/
theorem lexemeFrom_reads (layout : Layout subject chars place)
    (hdrop : chars.drop k = first :: rest) (config : Config) (memory : τ) :
    ∃ verdict, Reads config (first :: rest) verdict ∧
      (some <$> lexemeFrom config first) subject ⟨place k, memory⟩ =
        verdict.outcome place chars.length k memory := by
  by_cases hany : ∃ rule : Rule, rule.Applies config first rest
  · obtain ⟨_, happlies⟩ := hany
    obtain ⟨rule, hselected⟩ := Rule.exists_selected happlies
    cases rule with
    | space => exact reads_of_takes hselected (takes_space layout hdrop memory hselected)
    | comment => exact reads_of_takes hselected (takes_comment layout hdrop memory hselected)
    | number => exact reads_of_takes hselected (takes_number layout hdrop memory hselected)
    | word => exact reads_of_takes hselected (takes_word layout hdrop memory hselected)
    | string =>
      obtain htakes | ⟨hopen, hread⟩ := takes_string layout hdrop memory hselected
      · exact reads_of_takes hselected htakes
      · exact ⟨.unterminated, .unterminated hselected hopen, map_of_error hread⟩
    | operator => exact reads_of_takes hselected (takes_operator layout hdrop memory hselected)
    | punctuation =>
      exact reads_of_takes hselected (takes_punctuation layout hdrop memory hselected)
  · have hnone : ∀ rule : Rule, ¬ rule.Applies config first rest := by
      intro rule happlies
      exact hany ⟨rule, happlies⟩
    refine ⟨.unexpected first, .unexpected hnone, ?_⟩
    apply map_of_error
    exact lexemeFrom_unexpected layout hdrop memory hnone

end LexemeFrom

/-- At every place the reader finds what the grammar finds in the characters that are left. -/
theorem lexeme_reads (layout : Layout subject chars place) (hk : k ≤ chars.length)
    (config : Config) (memory : τ) :
    ∃ verdict, Reads config (chars.drop k) verdict ∧
      lexeme config subject ⟨place k, memory⟩ = verdict.outcome place chars.length k memory := by
  have hpeek : peek subject ⟨place k, memory⟩ = _ := layout.peek_eq hk
  cases hdrop : chars.drop k with
  | nil =>
    rw [← List.head?_drop, hdrop] at hpeek
    refine ⟨.finished, .finished, ?_⟩
    rw [lexeme, bind_of_ok hpeek]
    rfl
  | cons first rest =>
    rw [← List.head?_drop, hdrop] at hpeek
    rw [lexeme, bind_of_ok hpeek]
    exact lexemeFrom_reads layout hdrop config memory

end Scanning.Lexer
