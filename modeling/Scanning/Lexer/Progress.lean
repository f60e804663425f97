import Scanning.Lexer.Lexeme
import Scanning.Move.Progress

namespace Scanning.Lexer

open IndexSpace Move Unicode

variable {σ τ : Type} [IndexSpace σ Char]

/-- The search for the closing quote goes on from element to element. -/
theorem stepsOn_closeString {quote : Char} {start : Int} {subject : σ}
    {standing standing' : Standing τ}
    (h : closeString quote start subject standing = .ok () standing') :
    StepsOn subject standing.position standing'.position := by
  fun_induction closeString quote start subject standing with
  | case1 | case2 | case3 | case4 => cases h
  | case5 _ _ _ htake _ _ _ htake' ih =>
    exact (stepsPast_takeAt htake).stepsOn.trans
      ((stepsPast_takeAt htake').stepsOn.trans (ih h))
  | case6 _ _ _ htake =>
    cases h
    exact (stepsPast_takeAt htake).stepsOn
  | case7 _ _ _ htake _ _ ih => exact (stepsPast_takeAt htake).stepsOn.trans (ih h)

/-- A quoted string goes past its opening quote, whatever the quote is. -/
theorem stepsPast_string {quote : Char} {subject : σ} {standing standing' : Standing τ}
    (h : string quote subject standing = .ok () standing') :
    StepsPast subject standing.position standing'.position := by
  obtain ⟨start, middle, hp, h⟩ := bind_eq_ok.1 h
  obtain ⟨-, rfl⟩ := look_eq_ok.1 hp
  obtain ⟨_, opened, ha, h⟩ := bind_eq_ok.1 h
  exact (stepsPast_advance ha).trans_stepsOn (stepsOn_closeString h)

/-- A number goes past the digit that it begins with, whether a fraction follows or not. -/
theorem stepsPast_number {subject : σ} {standing standing' : Standing τ} {first : Char}
    (hend : standing.position ≠ endIndex subject)
    (hfirst : elementAt subject standing.position = .ok first) (hdigit : isDigit first = true)
    (h : number subject standing = .ok () standing') :
    StepsPast subject standing.position standing'.position := by
  obtain ⟨_, whole, hw, h⟩ := bind_eq_ok.1 h
  obtain ⟨pair, middle, hp, h⟩ := bind_eq_ok.1 h
  obtain ⟨-, rfl⟩ := look_eq_ok.1 hp
  refine (stepsPast_advanceOver hend hfirst hdigit hw).trans_stepsOn ?_
  cases pair with
  | none =>
    obtain ⟨-, rfl⟩ := pure_eq_ok.1 h
    exact .inl rfl
  | some pair =>
    obtain ⟨point, digit⟩ := pair
    dsimp only at h
    split at h
    · obtain ⟨_, atPoint, ha, h⟩ := bind_eq_ok.1 h
      exact (stepsPast_advance ha).stepsOn.trans (stepsOn_advanceOver h)
    · obtain ⟨-, rfl⟩ := pure_eq_ok.1 h
      exact .inl rfl

/-- A line break is white space, so that it is never where a comment begins. -/
theorem isBlank_newline : isBlank '\n' = true := by decide

theorem isWordChar_of_isWordStart {c : Char} (h : isWordStart c = true) : isWordChar c = true := by
  simp only [isWordStart, isWordChar, isAlphanumeric, Bool.or_eq_true] at *
  exact h.imp_left .inl

/-- Every lexeme goes past the character that it begins with. For runs this holds because the class
that selects the run accepts that character again. -/
theorem stepsPast_lexemeFrom {config : Config} {first : Char} {subject : σ}
    {standing standing' : Standing τ} {kind : TokenKind}
    (hend : standing.position ≠ endIndex subject)
    (hfirst : elementAt subject standing.position = .ok first)
    (h : lexemeFrom config first subject standing = .ok kind standing') :
    StepsPast subject standing.position standing'.position := by
  unfold lexemeFrom at h
  split at h
  case isTrue hblank =>
    obtain ⟨_, middle, hrun, h⟩ := bind_eq_ok.1 h
    obtain ⟨-, rfl⟩ := pure_eq_ok.1 h
    exact stepsPast_advanceOver hend hfirst hblank hrun
  case isFalse hblank =>
    obtain ⟨isComment, middle, hlook, h⟩ := bind_eq_ok.1 h
    obtain ⟨-, rfl⟩ := look_eq_ok.1 hlook
    split at h
    · obtain ⟨_, middle, hrun, h⟩ := bind_eq_ok.1 h
      obtain ⟨-, rfl⟩ := pure_eq_ok.1 h
      -- A line break would have been read as white space before.
      refine stepsPast_advanceOver hend hfirst ?_ hrun
      simp only [bne_iff_ne, ne_eq]
      rintro rfl
      exact hblank isBlank_newline
    split at h
    case isTrue hdigit =>
      obtain ⟨_, middle, hrun, h⟩ := bind_eq_ok.1 h
      obtain ⟨-, rfl⟩ := pure_eq_ok.1 h
      exact stepsPast_number hend hfirst hdigit hrun
    split at h
    case isTrue hword =>
      obtain ⟨_, middle, hrun, h⟩ := bind_eq_ok.1 h
      obtain ⟨-, rfl⟩ := pure_eq_ok.1 h
      exact stepsPast_advanceOver hend hfirst (isWordChar_of_isWordStart hword) hrun
    split at h
    · obtain ⟨_, middle, hrun, h⟩ := bind_eq_ok.1 h
      obtain ⟨-, rfl⟩ := pure_eq_ok.1 h
      exact stepsPast_string hrun
    obtain ⟨isOperator, middle, hop, hrest⟩ := bind_eq_ok.1 h
    cases isOperator with
    | true =>
      obtain ⟨-, rfl⟩ := pure_eq_ok.1 hrest
      exact stepsPast_readAnyPrefix (by decide) hop
    | false =>
      obtain rfl := readAnyPrefix_false hop
      rw [if_neg Bool.false_ne_true] at hrest
      obtain ⟨taken, after, hpop, hend⟩ := bind_eq_ok.1 hrest
      cases taken with
      | some c =>
        obtain ⟨-, rfl⟩ := pure_eq_ok.1 hend
        exact stepsPast_popWhere hpop
      | none =>
        obtain ⟨place, middle, -, hthrow⟩ := bind_eq_ok.1 hend
        cases hthrow

/-- A lexeme that is found goes from element to element past the position of the cursor. -/
theorem stepsPast_lexeme {config : Config} {subject : σ} {standing standing' : Standing τ}
    {kind : TokenKind} (h : lexeme config subject standing = .ok (some kind) standing') :
    StepsPast subject standing.position standing'.position := by
  obtain ⟨current, middle, hlook, h⟩ := bind_eq_ok.1 h
  obtain ⟨hpeek, rfl⟩ := look_eq_ok.1 hlook
  cases current with
  | none => simp [pure_eq_ok] at h
  | some first =>
    obtain ⟨kind, hlexeme, -⟩ := map_eq_ok.1 h
    split at hpeek
    · simp at hpeek
    · cases he : elementAt subject standing.position with
      | error => simp [he, Functor.map, Except.map] at hpeek
      | ok c =>
        obtain rfl : c = first := by simpa [he, Functor.map, Except.map] using hpeek
        exact stepsPast_lexemeFrom ‹_› he hlexeme

/-- A lexeme that is found ends behind the position of the cursor and not behind the end. -/
theorem leadsPast_lexeme {config : Config} {subject : σ} {standing standing' : Standing τ}
    {kind : TokenKind} (h : lexeme config subject standing = .ok (some kind) standing') :
    LeadsPast subject standing.position standing'.position :=
  (stepsPast_lexeme h).leadsPast

end Scanning.Lexer
