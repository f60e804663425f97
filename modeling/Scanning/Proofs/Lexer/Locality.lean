import Scanning.Proofs.Lexer.Tokenization

namespace Scanning.Lexer

open Unicode

variable {config : Config} {inClass : Char → Bool} {word lexeme after after' : List Char}

/-- What may stand behind a lexeme instead of the text `after`: some of that text from its front, or
a line break and whatever follows it. -/
inductive Substitute (after : List Char) : List Char → Prop where
  | front {after' : List Char} (hfront : after' <+: after) : Substitute after after'
  | lineBreak (rest : List Char) : Substitute after ('\n' :: rest)

/-- A word without line breaks does not reach past one. -/
theorem prefix_of_prefix_lineBreak {rest : List Char} (hline : '\n' ∉ word)
    (h : word <+: lexeme ++ '\n' :: rest) : word <+: lexeme := by
  obtain hword | hlexeme := List.prefix_or_prefix_of_prefix h (List.prefix_append lexeme _)
  · exact hword
  · obtain ⟨more, rfl⟩ := hlexeme
    cases more with
    | nil => simp only [List.append_nil, List.prefix_rfl]
    | cons c more =>
      obtain ⟨rfl, -⟩ := List.cons_prefix_cons.1 ((List.prefix_append_right_inj lexeme).1 h)
      exact absurd (List.mem_append_right lexeme List.mem_cons_self) hline

/-- A word without line breaks that stands where a line begins stands in that line. -/
theorem LongestRun.prefix_of_prefix (h : LongestRun (· != '\n') lexeme after)
    (hline : '\n' ∉ word) (hword : word <+: lexeme ++ after) : word <+: lexeme := by
  cases after with
  | nil => simpa only [List.append_nil] using hword
  | cons c rest =>
    obtain rfl : c = '\n' := by simpa using h.stops c rfl
    exact prefix_of_prefix_lineBreak hline hword

/-- No word comes to stand at the front that did not stand there before. -/
theorem Substitute.prefix_of_prefix (h : Substitute after after') (hline : '\n' ∉ word)
    (hword : word <+: lexeme ++ after') : word <+: lexeme ++ after := by
  cases h with
  | front hfront => exact hword.trans ((List.prefix_append_right_inj lexeme).2 hfront)
  | lineBreak rest =>
    exact (prefix_of_prefix_lineBreak hline hword).trans (List.prefix_append lexeme after)

theorem LongestRun.front (h : LongestRun inClass lexeme after) (hfront : after' <+: after) :
    LongestRun inClass lexeme after' where
  inClass_of_mem := h.inClass_of_mem
  stops c hc := by
    obtain ⟨more, rfl⟩ := hfront
    apply h.stops
    rw [List.head?_append, Option.mem_def.1 hc]
    rfl

/-- A run of a class without line breaks that cannot go on cannot go on into a line break or into
less of what follows it. -/
theorem LongestRun.substitute (h : LongestRun inClass lexeme after)
    (hbreak : inClass '\n' = false) (hsub : Substitute after after') :
    LongestRun inClass lexeme after' := by
  cases hsub with
  | front hfront => exact h.front hfront
  | lineBreak rest =>
    refine ⟨h.inClass_of_mem, ?_⟩
    rintro c ⟨⟩
    exact hbreak

theorem isDigit_newline : isDigit '\n' = false := by decide

theorem isWordChar_newline : isWordChar '\n' = false := by decide

theorem newline_not_mem_operators {operator : List Char} (h : operator ∈ operators) :
    '\n' ∉ operator := by
  revert operator
  decide

namespace Rule

/-- White space alone goes on over a line break. -/
theorem Covers.substitute {rule : Rule} (h : rule.Covers lexeme after)
    (hsub : Substitute after after') (hspace : rule = Rule.space → after' <+: after) :
    rule.Covers lexeme after' := by
  cases h with
  | space hrun => exact .space (hrun.front (hspace rfl))
  | comment hrun => exact .comment (hrun.substitute rfl hsub)
  | integer hrun hwhole =>
    refine .integer (hrun.substitute isDigit_newline hsub) ?_
    rintro digit more rfl
    cases hsub with
    | front hfront =>
      obtain ⟨others, rfl⟩ := hfront
      exact hwhole digit (more ++ others) rfl
  | fraction hrun hdecimals hfraction =>
    -- The digits in front of the point are followed by the point as before.
    exact .fraction ⟨hrun.inClass_of_mem, hrun.stops⟩ hdecimals
      (hfraction.substitute isDigit_newline hsub)
  | word hrun => exact .word (hrun.substitute isWordChar_newline hsub)
  | string hquote hbody => exact .string hquote hbody
  | operator hmem => exact .operator hmem
  | punctuation c => exact .punctuation c

section Selection

variable {first : Char} {tail : List Char} (hline : '\n' ∉ config.commentPrefix.toList)
  (hsub : Substitute after after')

include hline hsub

/-- A rule that applies in front of the substitute applied before. -/
theorem Applies.of_substitute {rule : Rule} (h : rule.Applies config first (tail ++ after')) :
    rule.Applies config first (tail ++ after) := by
  cases rule with
  | comment =>
    have hword : config.commentPrefix.toList <+: (first :: tail) ++ after' := h
    exact hsub.prefix_of_prefix hline hword
  | operator =>
    obtain ⟨operator, hmem, hfront⟩ := h
    have hword : operator <+: (first :: tail) ++ after' := hfront
    exact ⟨operator, hmem, hsub.prefix_of_prefix (newline_not_mem_operators hmem) hword⟩
  | space | number | word | string | punctuation => exact h

omit hsub in
/-- The rule that has covered the lexeme still applies: what it asks for, the lexeme has. -/
theorem Applies.substitute {rule : Rule} (h : rule.Applies config first (tail ++ after))
    (hcovers : rule.Covers (first :: tail) after) :
    rule.Applies config first (tail ++ after') := by
  cases rule with
  | comment =>
    cases hcovers with
    | comment hrun =>
      have hword : config.commentPrefix.toList <+: first :: tail := hrun.prefix_of_prefix hline h
      exact hword.trans (List.prefix_append (first :: tail) after')
  | operator =>
    cases hcovers with
    | operator hmem => exact ⟨_, hmem, List.prefix_append (first :: tail) after'⟩
  | space | number | word | string | punctuation => exact h

/-- The rule that is selected stays selected when what stands behind its lexeme is cut short or
begins with a line break. -/
theorem Selected.substitute {rule : Rule} (h : rule.Selected config first (tail ++ after))
    (hcovers : rule.Covers (first :: tail) after) :
    rule.Selected config first (tail ++ after') where
  applies := h.applies.substitute hline hcovers
  wins other hrank happlies := h.wins other hrank (happlies.of_substitute hline hsub)

end Selection

end Rule

/-- A lexeme is read again in front of the substitute, unless it is white space that would go on
over a line break. -/
theorem Reads.substitute {kind : TokenKind} (hline : '\n' ∉ config.commentPrefix.toList)
    (h : Reads config (lexeme ++ after) (.lexeme kind lexeme)) (hsub : Substitute after after')
    (hspace : kind = .space → after' <+: after) :
    Reads config (lexeme ++ after') (.lexeme kind lexeme) := by
  generalize htext : lexeme ++ after = text at h
  cases h with
  | @lexeme rule first rest _ after'' hselected hcovers hsplit =>
    obtain rfl := List.append_cancel_left (htext.trans hsplit)
    have hne := hcovers.ne_nil hselected hsplit
    obtain ⟨first', tail, rfl⟩ := List.exists_cons_of_ne_nil hne
    obtain ⟨rfl, rfl⟩ := List.cons.inj hsplit
    exact .lexeme (hselected.substitute hline hsub hcovers)
      (hcovers.substitute hsub fun h => hspace (h ▸ rfl)) rfl

/-- Only white space begins with a blank. -/
theorem Reads.not_isBlank {first : Char} {rest : List Char} {kind : TokenKind}
    (h : Reads config (first :: rest) (.lexeme kind lexeme)) (hkind : kind ≠ .space) :
    isBlank first = false := by
  cases h with
  | @lexeme rule _ _ _ _ hselected hcovers htext =>
    apply Bool.eq_false_iff.2
    apply hselected.not_isBlank
    cases rule with
    | space => exact absurd rfl hkind
    | comment | number | word | string | operator | punctuation => exact Nat.succ_pos _

end Scanning.Lexer
