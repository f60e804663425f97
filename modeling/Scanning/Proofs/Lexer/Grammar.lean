import Scanning.Lexer.Lexeme

namespace Scanning.Lexer

open Unicode

/-- The run `lexeme` of characters of a class cannot go on into the characters that follow it. -/
structure LongestRun (inClass : Char → Bool) (lexeme rest : List Char) : Prop where
  inClass_of_mem : ∀ c ∈ lexeme, inClass c = true
  stops : ∀ c ∈ rest.head?, inClass c = false

/-- What may stand between the quotes of a string: a backslash takes the next character with it, and
no other character is the quote. -/
inductive Enclosed (quote : Char) : List Char → Prop where
  | nil : Enclosed quote []
  | plain {c : Char} {body : List Char} (hbackslash : c ≠ '\\') (hquote : c ≠ quote)
      (hbody : Enclosed quote body) : Enclosed quote (c :: body)
  | escape (c : Char) {body : List Char} (hbody : Enclosed quote body) :
      Enclosed quote ('\\' :: c :: body)

/-- The rules of the grammar, the one with the highest priority first. -/
inductive Rule where
  | space
  | comment
  | number
  | word
  | string
  | operator
  | punctuation
  deriving DecidableEq, Repr

namespace Rule

/-- Rules of lower rank win. -/
def rank : Rule → Nat
  | space => 0
  | comment => 1
  | number => 2
  | word => 3
  | string => 4
  | operator => 5
  | punctuation => 6

/-- The kind of token that a rule makes. -/
def kind : Rule → TokenKind
  | space => .space
  | comment => .comment
  | number => .number
  | word => .word
  | string => .string
  | operator | punctuation => .punct

/-- Whether a rule applies where the character `first` and then `rest` are left. -/
def Applies (config : Config) (first : Char) (rest : List Char) : Rule → Prop
  | space => isBlank first = true
  | comment => config.commentPrefix.toList <+: first :: rest
  | number => isDigit first = true
  | word => isWordStart first = true
  | string => first ∈ config.quoteChars.toList
  | operator => ∃ operator ∈ operators, operator <+: first :: rest
  | punctuation => first ∈ config.punctuation.toList

/-- A rule is selected if it applies and no rule of lower rank does. -/
structure Selected (config : Config) (first : Char) (rest : List Char) (rule : Rule) : Prop where
  applies : rule.Applies config first rest
  wins : ∀ other : Rule, other.rank < rule.rank → ¬ other.Applies config first rest

/-- The lexemes of a rule, in front of what follows them. A point belongs to a number only together
with a digit after it. -/
inductive Covers : Rule → List Char → List Char → Prop where
  | space {lexeme rest : List Char} (hrun : LongestRun isBlank lexeme rest) :
      Covers space lexeme rest
  | comment {lexeme rest : List Char} (hrun : LongestRun (· != '\n') lexeme rest) :
      Covers comment lexeme rest
  | integer {digits rest : List Char} (hrun : LongestRun isDigit digits rest)
      (hwhole : ∀ digit after, rest = '.' :: digit :: after → isDigit digit = false) :
      Covers number digits rest
  | fraction {digits decimals rest : List Char}
      (hrun : LongestRun isDigit digits ('.' :: (decimals ++ rest))) (hdecimals : decimals ≠ [])
      (hfraction : LongestRun isDigit decimals rest) :
      Covers number (digits ++ '.' :: decimals) rest
  | word {lexeme rest : List Char} (hrun : LongestRun isWordChar lexeme rest) :
      Covers word lexeme rest
  | string {quote : Char} {body rest : List Char} (hquote : quote ≠ '\\')
      (hbody : Enclosed quote body) : Covers string (quote :: (body ++ [quote])) rest
  | operator {lexeme rest : List Char} (hmem : lexeme ∈ operators) : Covers operator lexeme rest
  | punctuation (c : Char) {rest : List Char} : Covers punctuation [c] rest

end Rule

/-- What the grammar finds at a boundary. -/
inductive Verdict where
  | finished
  | lexeme (kind : TokenKind) (chars : List Char)
  | unterminated
  | unexpected (c : Char)
  deriving DecidableEq, Repr

/-- What the grammar finds where a text is left: nothing at the end, the lexeme of the selected
rule, a string that no closing quote ends, or a character that no rule applies to. -/
inductive Reads (config : Config) : List Char → Verdict → Prop where
  | finished : Reads config [] .finished
  | lexeme {rule : Rule} {first : Char} {rest lexeme after : List Char}
      (hselected : rule.Selected config first rest) (hcovers : rule.Covers lexeme after)
      (htext : first :: rest = lexeme ++ after) :
      Reads config (first :: rest) (.lexeme rule.kind lexeme)
  | unterminated {first : Char} {rest : List Char}
      (hselected : Rule.string.Selected config first rest)
      (hopen : ∀ lexeme after, first :: rest = lexeme ++ after →
        ¬ Rule.string.Covers lexeme after) :
      Reads config (first :: rest) .unterminated
  | unexpected {first : Char} {rest : List Char}
      (hnone : ∀ rule : Rule, ¬ rule.Applies config first rest) :
      Reads config (first :: rest) (.unexpected first)

variable {inClass : Char → Bool} {config : Config} {lexeme lexeme' rest rest' : List Char}

/-- The longest front of a text that is in a class is a run that cannot go on. -/
theorem longestRun_takeWhile (inClass : Char → Bool) (text : List Char) :
    LongestRun inClass (text.takeWhile inClass) (text.dropWhile inClass) where
  inClass_of_mem c hc := List.all_eq_true.1 List.all_takeWhile c hc
  stops c hc := by
    have hhead := List.head?_dropWhile_not inClass text
    rw [Option.mem_def.1 hc] at hhead
    exact hhead

/-- A run that cannot go on is the longest front in its class. -/
theorem LongestRun.eq_takeWhile (h : LongestRun inClass lexeme rest) :
    lexeme = (lexeme ++ rest).takeWhile inClass := by
  have hrest : rest.takeWhile inClass = [] := by
    cases rest with
    | nil => rfl
    | cons c others => rw [List.takeWhile_cons, h.stops c rfl, if_neg Bool.false_ne_true]
  rw [List.takeWhile_append_of_pos h.inClass_of_mem, hrest, List.append_nil]

/-- A text has one run of a class at its front that cannot go on. -/
theorem LongestRun.unique (h : LongestRun inClass lexeme rest)
    (h' : LongestRun inClass lexeme' rest') (htext : lexeme ++ rest = lexeme' ++ rest') :
    lexeme = lexeme' := by
  rw [h.eq_takeWhile, h'.eq_takeWhile, htext]

/-- A longest run takes at least the first character if that is in the class. -/
theorem LongestRun.ne_nil (h : LongestRun inClass lexeme rest) {first : Char}
    (hfirst : (lexeme ++ rest).head? = some first) (hclass : inClass first = true) :
    lexeme ≠ [] := by
  rintro rfl
  have hstops := h.stops first hfirst
  rw [hclass] at hstops
  cases hstops

/-- The closing quote of a string is determined by what follows the opening one. -/
theorem Enclosed.unique {quote : Char} (hquote : quote ≠ '\\') {body body' : List Char}
    (h : Enclosed quote body) (h' : Enclosed quote body')
    (htext : body ++ quote :: rest = body' ++ quote :: rest') : body = body' := by
  induction h generalizing body' with
  | nil =>
    cases h' with
    | nil => rfl
    | plain hbackslash hother hbody => exact absurd (List.cons.inj htext).1.symm hother
    | escape c hbody => exact absurd (List.cons.inj htext).1 hquote
  | plain hbackslash hother hbody ih =>
    cases h' with
    | nil => exact absurd (List.cons.inj htext).1 hother
    | plain hbackslash' hother' hbody' =>
      obtain ⟨rfl, htail⟩ := List.cons.inj htext
      rw [ih hbody' htail]
    | escape c hbody' => exact absurd (List.cons.inj htext).1 hbackslash
  | escape c hbody ih =>
    cases h' with
    | nil => exact absurd (List.cons.inj htext).1.symm hquote
    | plain hbackslash hother hbody' => exact absurd (List.cons.inj htext).1.symm hbackslash
    | escape c' hbody' =>
      obtain ⟨rfl, htail⟩ := List.cons.inj (List.cons.inj htext).2
      rw [ih hbody' htail]

/-- A number goes on into a fraction in one way or not at all. -/
theorem integer_ne_fraction {digits digits' decimals' : List Char}
    (hrun : LongestRun isDigit digits rest)
    (hwhole : ∀ digit after, rest = '.' :: digit :: after → isDigit digit = false)
    (hrun' : LongestRun isDigit digits' ('.' :: (decimals' ++ rest'))) (hdecimals' : decimals' ≠ [])
    (hfraction' : LongestRun isDigit decimals' rest') :
    digits ++ rest ≠ digits' ++ '.' :: (decimals' ++ rest') := by
  intro htext
  obtain rfl := hrun.unique hrun' htext
  obtain ⟨digit, decimals, rfl⟩ := List.exists_cons_of_ne_nil hdecimals'
  have hnone := hwhole digit (decimals ++ rest') (List.append_cancel_left htext)
  rw [hfraction'.inClass_of_mem digit List.mem_cons_self] at hnone
  cases hnone

theorem length_of_mem_operators {operator : List Char} (h : operator ∈ operators) :
    operator.length = 2 := by
  revert operator
  decide

namespace Rule

/-- A rule covers one lexeme of a text at most. -/
theorem Covers.unique {rule : Rule} (h : rule.Covers lexeme rest) (h' : rule.Covers lexeme' rest')
    (htext : lexeme ++ rest = lexeme' ++ rest') : lexeme = lexeme' := by
  cases h with
  | space hrun =>
    cases h' with
    | space hrun' => exact hrun.unique hrun' htext
  | comment hrun =>
    cases h' with
    | comment hrun' => exact hrun.unique hrun' htext
  | integer hrun hwhole =>
    cases h' with
    | integer hrun' hwhole' => exact hrun.unique hrun' htext
    | fraction hrun' hdecimals' hfraction' =>
      rw [List.append_assoc] at htext
      exact absurd htext (integer_ne_fraction hrun hwhole hrun' hdecimals' hfraction')
  | fraction hrun hdecimals hfraction =>
    cases h' with
    | integer hrun' hwhole' =>
      rw [List.append_assoc] at htext
      exact absurd htext.symm (integer_ne_fraction hrun' hwhole' hrun hdecimals hfraction)
    | fraction hrun' hdecimals' hfraction' =>
      rw [List.append_assoc, List.append_assoc] at htext
      obtain rfl := hrun.unique hrun' htext
      have hdecimal := (List.cons.inj (List.append_cancel_left htext)).2
      rw [hfraction.unique hfraction' hdecimal]
  | word hrun =>
    cases h' with
    | word hrun' => exact hrun.unique hrun' htext
  | @string quote _ _ hquote hbody =>
    cases h' with
    | string hquote' hbody' =>
      obtain ⟨rfl, htail⟩ := List.cons.inj htext
      have hclosed (body rest : List Char) :
          (body ++ [quote]).append rest = body ++ quote :: rest :=
        List.append_assoc body [quote] rest
      rw [hclosed, hclosed] at htail
      rw [hbody.unique hquote hbody' htail]
  | operator hmem =>
    cases h' with
    | operator hmem' =>
      have hlength := length_of_mem_operators hmem
      have hlength' := length_of_mem_operators hmem'
      exact (List.append_inj htext (hlength.trans hlength'.symm)).1
  | punctuation c =>
    cases h' with
    | punctuation c' => rw [(List.cons.inj htext).1]

theorem rank_inj {rule rule' : Rule} (h : rule.rank = rule'.rank) : rule = rule' := by
  cases rule <;> cases rule' <;> first | rfl | cases h

/-- At most one rule is selected at a boundary. -/
theorem Selected.unique {first : Char} {rule rule' : Rule}
    (h : rule.Selected config first rest) (h' : rule'.Selected config first rest) :
    rule = rule' := by
  by_cases hlt : rule.rank < rule'.rank
  · exact absurd h.applies (h'.wins rule hlt)
  by_cases hgt : rule'.rank < rule.rank
  · exact absurd h'.applies (h.wins rule' hgt)
  · exact rank_inj (by omega)

section Selected

variable {first : Char} {rule : Rule} (h : rule.Selected config first rest)

include h

/-- Where another rule is selected no white space begins. -/
theorem Selected.not_isBlank (hrank : 0 < rule.rank) : ¬ isBlank first = true :=
  h.wins space hrank

theorem Selected.not_comment (hrank : 1 < rule.rank) : ¬ comment.Applies config first rest :=
  h.wins comment hrank

theorem Selected.not_isDigit (hrank : 2 < rule.rank) : ¬ isDigit first = true :=
  h.wins number hrank

theorem Selected.not_isWordStart (hrank : 3 < rule.rank) : ¬ isWordStart first = true :=
  h.wins word hrank

theorem Selected.not_quote (hrank : 4 < rule.rank) :
    ¬ config.quoteChars.toList.contains first = true := by
  intro hquote
  apply h.wins string hrank
  exact List.contains_iff_mem.1 hquote

end Selected

/-- Where a rule applies, one is selected. -/
theorem exists_selected {first : Char} {rule : Rule} (happlies : rule.Applies config first rest) :
    ∃ rule : Rule, rule.Selected config first rest := by
  obtain ⟨rank, hrank⟩ : ∃ rank, rule.rank = rank := ⟨_, rfl⟩
  induction rank using Nat.strongRecOn generalizing rule with
  | ind rank ih =>
    by_cases hother : ∃ other : Rule, other.rank < rule.rank ∧ other.Applies config first rest
    · obtain ⟨other, hlt, hother⟩ := hother
      exact ih other.rank (by omega) hother rfl
    · refine ⟨rule, happlies, ?_⟩
      intro other hlt h
      exact hother ⟨other, hlt, h⟩

end Rule

/-- The grammar finds one thing at each boundary. -/
theorem Reads.unique {text : List Char} {verdict verdict' : Verdict}
    (h : Reads config text verdict) (h' : Reads config text verdict') : verdict = verdict' := by
  cases h with
  | finished =>
    cases h' with
    | finished => rfl
  | lexeme hselected hcovers htext =>
    cases h' with
    | lexeme hselected' hcovers' htext' =>
      obtain rfl := hselected.unique hselected'
      rw [hcovers.unique hcovers' (htext.symm.trans htext')]
    | unterminated hselected' hopen' =>
      obtain rfl := hselected.unique hselected'
      exact absurd hcovers (hopen' _ _ htext)
    | unexpected hnone' => exact absurd hselected.applies (hnone' _)
  | unterminated hselected hopen =>
    cases h' with
    | lexeme hselected' hcovers' htext' =>
      obtain rfl := hselected.unique hselected'
      exact absurd hcovers' (hopen _ _ htext')
    | unterminated hselected' hopen' => rfl
    | unexpected hnone' => exact absurd hselected.applies (hnone' _)
  | unexpected hnone =>
    cases h' with
    | lexeme hselected' hcovers' htext' => exact absurd hselected'.applies (hnone _)
    | unterminated hselected' hopen' => exact absurd hselected'.applies (hnone _)
    | unexpected hnone' => rfl

end Scanning.Lexer
