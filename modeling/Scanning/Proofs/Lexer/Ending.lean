import Scanning.Lexer.Scan
import Scanning.Proofs.Lexer.Tokenization
import Scanning.Proofs.Move.Bounds
import Scanning.Proofs.Move.Failure

namespace Scanning

open IndexSpace

/-- The lexer's own complaints, about a string or about a character. -/
def Fault.IsLexical : Fault → Prop
  | .parse failure => failure.reader = .lexer
  | _ => False

theorem Fault.bind_eq_error {α β : Type} {attempt : Except Fault α} {f : α → Except Fault β}
    {fault : Fault} :
    attempt >>= f = .error fault ↔
      attempt = .error fault ∨ ∃ a, attempt = .ok a ∧ f a = .error fault := by
  cases attempt <;> simp [bind, Except.bind]

theorem Fault.map_eq_error {α β : Type} {attempt : Except Fault α} {f : α → β} {fault : Fault} :
    f <$> attempt = .error fault ↔ attempt = .error fault := by
  cases attempt <;> simp [Functor.map, Except.map]

variable {σ τ ε α β : Type} [IndexSpace σ ε]

/-- A subject whose refusals are no complaints of the lexer. -/
structure Plain (subject : σ) : Prop where
  elementAt {index : Int} {fault : Fault} (h : elementAt subject index = .error fault) :
    ¬ fault.IsLexical
  after {index : Int} {fault : Fault} (h : after subject index = .error fault) : ¬ fault.IsLexical
  slice {low high : Int} {fault : Fault} (h : slice subject low high = .error fault) :
    ¬ fault.IsLexical

namespace Plain

variable {subject : σ}

/-- An element that cannot be taken is no complaint of the lexer. -/
theorem takeAt (plain : Plain subject) {index : Int} {fault : Fault}
    (h : takeAt subject index = .error fault) : ¬ fault.IsLexical := by
  unfold IndexSpace.takeAt at h
  split at h
  · cases h
  · obtain h | ⟨element, -, h⟩ := Fault.bind_eq_error.1 h
    · exact plain.elementAt h
    · obtain h | ⟨next, -, h⟩ := Fault.bind_eq_error.1 h
      · exact plain.after h
      · cases h

/-- An expected element that cannot be compared is no complaint of the lexer. -/
theorem prefixEnd [BEq ε] (plain : Plain subject) {index : Int} {elements : List ε} {fault : Fault}
    (h : prefixEnd subject index elements = .error fault) : ¬ fault.IsLexical := by
  induction elements generalizing index with
  | nil => cases h
  | cons first others ih =>
    unfold IndexSpace.prefixEnd at h
    split at h
    · cases h
    · obtain h | ⟨element, -, h⟩ := Fault.bind_eq_error.1 h
      · exact plain.elementAt h
      · split at h
        · obtain h | ⟨next, -, h⟩ := Fault.bind_eq_error.1 h
          · exact plain.after h
          · exact ih h
        · cases h

end Plain

namespace Move

variable {subject : σ}

theorem bind_eq_error {move : Move σ τ α} {f : α → Move σ τ β} {standing standing' : Standing τ}
    {fault : Fault} :
    (move >>= f) subject standing = .error fault standing' ↔
      move subject standing = .error fault standing' ∨
        ∃ a middle, move subject standing = .ok a middle ∧
          f a subject middle = .error fault standing' := by
  simp only [bind, ReaderT.bind, EStateM.bind]
  cases move subject standing <;> grind

/-- A move that fails only as its subject does, never with a complaint of the lexer. -/
def FailsPlainly (subject : σ) (move : Move σ τ α) : Prop :=
  ∀ ⦃standing fault standing'⦄, move subject standing = .error fault standing' → ¬ fault.IsLexical

theorem failsPlainly_pure (answer : α) : FailsPlainly subject (pure answer : Move σ τ α) := by
  intro standing fault standing' h
  cases h

theorem failsPlainly_look {f : σ → Int → Except Fault α}
    (h : ∀ {index fault}, f subject index = .error fault → ¬ fault.IsLexical) :
    FailsPlainly subject (look f : Move σ τ α) := by
  intro standing fault standing' hlook
  unfold look at hlook
  split at hlook
  · cases hlook
  · cases hlook
    exact h ‹_›

theorem failsPlainly_consume {f : σ → Int → Except Fault (α × Int)}
    (h : ∀ {index fault}, f subject index = .error fault → ¬ fault.IsLexical) :
    FailsPlainly subject (consume f : Move σ τ α) := by
  intro standing fault standing' hconsume
  unfold consume at hconsume
  split at hconsume
  · cases hconsume
  · cases hconsume
    exact h ‹_›

theorem FailsPlainly.bind {move : Move σ τ α} {f : α → Move σ τ β}
    (h : FailsPlainly subject move) (hf : ∀ answer, FailsPlainly subject (f answer)) :
    FailsPlainly subject (move >>= f) := by
  intro standing fault standing' hbind
  obtain hmove | ⟨answer, middle, -, hrest⟩ := bind_eq_error.1 hbind
  · exact h hmove
  · exact hf answer hrest

/-- A cursor that takes no element of the class stays. -/
theorem eq_of_popWhere {inClass : ε → Bool} {standing standing' : Standing τ}
    (h : popWhere (fun element => return inClass element) subject standing = .ok none standing') :
    standing' = standing := by
  unfold popWhere at h
  split at h
  · cases h
    rfl
  split at h
  · cases h
  split at h
  · cases h
  case h_2 htest =>
    obtain ⟨-, rfl⟩ := EStateM.Result.ok.inj htest
    cases h
    rfl
  · split at h
    · cases h
    · cases h

variable (plain : Plain subject)

include plain

theorem failsPlainly_advance : FailsPlainly subject (advance : Move σ τ Unit) := by
  apply failsPlainly_consume
  intro index fault h
  split at h
  · cases h
    exact id
  · obtain h | ⟨next, -, h⟩ := Fault.bind_eq_error.1 h
    · exact plain.after h
    · cases h

theorem failsPlainly_peek : FailsPlainly subject (peek : Move σ τ (Option ε)) := by
  apply failsPlainly_look
  intro index fault h
  split at h
  · cases h
  · exact plain.elementAt (Fault.map_eq_error.1 h)

theorem failsPlainly_peek2 : FailsPlainly subject (peek2 : Move σ τ (Option (ε × ε))) := by
  apply failsPlainly_look
  intro index fault h
  split at h
  · cases h
  obtain h | ⟨second, -, h⟩ := Fault.bind_eq_error.1 h
  · exact plain.after h
  split at h
  · cases h
  obtain h | ⟨a, -, h⟩ := Fault.bind_eq_error.1 h
  · exact plain.elementAt h
  obtain h | ⟨b, -, h⟩ := Fault.bind_eq_error.1 h
  · exact plain.elementAt h
  · cases h

theorem failsPlainly_startsWith [BEq ε] (elements : List ε) :
    FailsPlainly subject (startsWith elements : Move σ τ Bool) := by
  apply failsPlainly_look
  intro index fault h
  exact plain.prefixEnd (Fault.map_eq_error.1 h)

theorem failsPlainly_readAnyPrefix [BEq ε] (lists : List (List ε)) :
    FailsPlainly subject (readAnyPrefix lists : Move σ τ Bool) := by
  have hread (elements : List ε) :
      FailsPlainly subject (readPrefix elements : Move σ τ Bool) := by
    apply failsPlainly_consume
    intro index fault h
    obtain h | ⟨found, -, h⟩ := Fault.bind_eq_error.1 h
    · exact plain.prefixEnd h
    · split at h
      · cases h
      · cases h
  induction lists with
  | nil => exact failsPlainly_pure false
  | cons elements others ih =>
    rw [readAnyPrefix]
    refine (hread elements).bind ?_
    intro isNext
    split
    · exact failsPlainly_pure true
    · exact ih

theorem failsPlainly_popWhere (inClass : ε → Bool) :
    FailsPlainly subject (popWhere fun element => return inClass element : Move σ τ (Option ε)) := by
  intro standing fault standing' h
  unfold popWhere at h
  split at h
  · cases h
  split at h
  · cases h
    exact plain.elementAt ‹_›
  split at h
  case h_1 htest => cases htest
  · cases h
  · split at h
    · cases h
      exact plain.after ‹_›
    · cases h

theorem failsPlainly_advanceOver (inClass : ε → Bool) :
    FailsPlainly subject (advanceOver inClass : Move σ τ Unit) := by
  intro standing fault standing' h
  obtain ⟨stop, -, hfails⟩ := runFrom_eq_error_iff.1 h
  cases hfails with
  | element _ helement => exact plain.elementAt helement
  | test _ _ htest => cases htest
  | step _ _ _ hafter => exact plain.after hafter

end Move

/-- There is no element to take at the end only. -/
theorem eq_end_of_takeAt {subject : σ} {index : Int} (h : takeAt subject index = .ok none) :
    index = endIndex subject := by
  unfold takeAt at h
  split at h
  · assumption
  · obtain ⟨element, -, h⟩ := Fault.bind_eq_ok.1 h
    obtain ⟨next, -, h⟩ := Fault.bind_eq_ok.1 h
    cases h

namespace Lexer

open Move Unicode

variable [IndexSpace σ Char] {subject : σ} {standing standing' : Standing τ} {fault : Fault}
  {config : Config}

section Lexemes

variable (plain : Plain subject)

include plain

/-- A string that is never closed is read to the end. -/
theorem eq_end_of_closeString {quote : Char} {start : Int}
    (h : closeString quote start subject standing = .error fault standing')
    (hlexical : fault.IsLexical) : standing'.position = endIndex subject := by
  fun_induction closeString quote start subject standing with
  | case1 _ _ htake =>
    cases h
    exact absurd hlexical (plain.takeAt htake)
  | case2 _ htake =>
    cases h
    exact eq_end_of_takeAt htake
  | case3 _ _ _ _ _ _ htake =>
    cases h
    exact absurd hlexical (plain.takeAt htake)
  | case4 _ _ _ _ _ htake =>
    cases h
    exact eq_end_of_takeAt htake
  | case5 _ _ _ _ _ _ _ _ ih => exact ih h
  | case6 => cases h
  | case7 _ _ _ _ _ _ ih => exact ih h

/-- A string is complained about only when the whole rest of the subject has been searched. -/
theorem eq_end_of_string {quote : Char} (h : string quote subject standing = .error fault standing')
    (hlexical : fault.IsLexical) : standing'.position = endIndex subject := by
  obtain h | ⟨start, middle, -, h⟩ := bind_eq_error.1 h
  · cases h
  obtain h | ⟨_, opened, -, h⟩ := bind_eq_error.1 h
  · exact absurd hlexical (failsPlainly_advance plain h)
  · exact eq_end_of_closeString plain h hlexical

theorem failsPlainly_number : FailsPlainly subject (number : Move σ τ Unit) := by
  refine (failsPlainly_advanceOver plain isDigit).bind fun _ => ?_
  refine (failsPlainly_peek2 plain).bind fun pair => ?_
  split
  · split
    · exact (failsPlainly_advance plain).bind fun _ => failsPlainly_advanceOver plain isDigit
    · exact failsPlainly_pure ()
  · exact failsPlainly_pure ()

/-- Where the lexer leaves the cursor when it complains: at the end of a string that is not closed, or
at a character that begins no lexeme. -/
theorem lexemeFrom_complaint {first : Char}
    (h : lexemeFrom config first subject standing = .error fault standing')
    (hlexical : fault.IsLexical) :
    standing'.position = endIndex subject ∨ standing' = standing := by
  unfold lexemeFrom at h
  split at h
  · obtain h | ⟨_, _, -, h⟩ := bind_eq_error.1 h
    · exact absurd hlexical (failsPlainly_advanceOver plain isBlank h)
    · cases h
  obtain h | ⟨isComment, _, hlook, h⟩ := bind_eq_error.1 h
  · exact absurd hlexical (failsPlainly_startsWith plain _ h)
  obtain ⟨-, rfl⟩ := look_eq_ok.1 hlook
  split at h
  · obtain h | ⟨_, _, -, h⟩ := bind_eq_error.1 h
    · exact absurd hlexical (failsPlainly_advanceOver plain (· != '\n') h)
    · cases h
  split at h
  · obtain h | ⟨_, _, -, h⟩ := bind_eq_error.1 h
    · exact absurd hlexical (failsPlainly_number plain h)
    · cases h
  split at h
  · obtain h | ⟨_, _, -, h⟩ := bind_eq_error.1 h
    · exact absurd hlexical (failsPlainly_advanceOver plain isWordChar h)
    · cases h
  split at h
  · obtain h | ⟨_, _, -, h⟩ := bind_eq_error.1 h
    · exact .inl (eq_end_of_string plain h hlexical)
    · cases h
  obtain h | ⟨isOperator, _, hoperator, hrest⟩ := bind_eq_error.1 h
  · exact absurd hlexical (failsPlainly_readAnyPrefix plain operators h)
  cases isOperator with
  | true => cases hrest
  | false =>
    obtain rfl := readAnyPrefix_false hoperator
    rw [if_neg Bool.false_ne_true] at hrest
    obtain hpop | ⟨taken, middle, hpop, hend⟩ := bind_eq_error.1 hrest
    · exact absurd hlexical (failsPlainly_popWhere plain _ hpop)
    cases taken with
    | some c => cases hend
    | none =>
      rw [eq_of_popWhere hpop] at hend
      obtain hplace | ⟨place, _, hplace, hthrow⟩ := bind_eq_error.1 hend
      · cases hplace
      · obtain ⟨-, rfl⟩ := look_eq_ok.1 hplace
        cases hthrow
        exact .inr rfl

/-- When the lexer complains, the cursor is at the end or has not moved. -/
theorem lexeme_complaint (h : lexeme config subject standing = .error fault standing')
    (hlexical : fault.IsLexical) :
    standing'.position = endIndex subject ∨ standing' = standing := by
  obtain h | ⟨current, middle, hlook, h⟩ := bind_eq_error.1 h
  · exact absurd hlexical (failsPlainly_peek plain h)
  obtain ⟨-, rfl⟩ := look_eq_ok.1 hlook
  cases current with
  | none => cases h
  | some first => exact lexemeFrom_complaint plain (map_eq_error.1 h) hlexical

end Lexemes

/-- From here on there is no token: the subject has ended, or the lexer complains without moving. -/
def Over (config : Config) (subject : σ) (standing : Standing τ) : Prop :=
  nextKept config subject standing = .ok none standing ∨
    ∃ fault : Fault, fault.IsLexical ∧ nextKept config subject standing = .error fault standing

/-- There is no lexeme at the end only. -/
theorem eq_end_of_lexeme (h : lexeme config subject standing = .ok none standing') :
    standing'.position = endIndex subject := by
  obtain ⟨current, middle, hlook, h⟩ := bind_eq_ok.1 h
  obtain ⟨hpeek, rfl⟩ := look_eq_ok.1 hlook
  cases current with
  | none =>
    obtain ⟨-, rfl⟩ := pure_eq_ok.1 h
    split at hpeek
    · assumption
    · obtain ⟨element, -, hnone⟩ := Fault.map_eq_ok.1 hpeek
      cases hnone
  | some first =>
    obtain ⟨kind, -, hnone⟩ := map_eq_ok.1 h
    cases hnone

theorem over_of_end (h : standing.position = endIndex subject) : Over config subject standing := by
  have hpeek : peek subject standing = .ok none standing := by
    simp only [peek, look]
    rw [if_pos h]
  refine .inl (nextKept_of_none ?_)
  rw [lexeme, bind_of_ok hpeek]
  rfl

/-- Where no token was found there is none from where the cursor is left either. -/
theorem over_of_none (h : nextKept config subject standing = .ok none standing') :
    Over config subject standing' := by
  fun_induction nextKept config subject standing with
  | case1 | case4 | case5 => cases h
  | case2 _ _ hlexeme =>
    cases h
    exact over_of_end (eq_end_of_lexeme hlexeme)
  | case3 _ _ _ _ _ ih => exact ih h

/-- Where the lexer has complained it complains again, or the subject has ended. -/
theorem over_of_complaint (plain : Plain subject)
    (h : nextKept config subject standing = .error fault standing') (hlexical : fault.IsLexical) :
    Over config subject standing' := by
  fun_induction nextKept config subject standing with
  | case1 _ _ _ hlexeme =>
    cases h
    obtain hend | rfl := lexeme_complaint plain hlexeme hlexical
    · exact over_of_end hend
    · exact .inr ⟨fault, hlexical, nextKept_of_error hlexeme⟩
  | case2 | case5 => cases h
  | case3 _ _ _ _ _ ih => exact ih h
  | case4 _ _ _ _ _ _ hslice =>
    cases h
    exact absurd hlexical (plain.slice hslice)

/-- A scanner that has told so: one token more, or none ever again. -/
def Scanner.told (scanner : Scanner) : EStateM.Result Fault (Standing τ) (Option Token) → Scanner
  | .ok (some _) _ => { scanner with given := scanner.given + 1 }
  | _ => { scanner with finished := true }

/-- A scanner that may give another token is told what comes next, whatever it has given so far. -/
theorem next_of_live {scanner : Scanner} (hlive : scanner.finished = false)
    (hunspent : scanner.isSpent = false) (subject : σ) (standing : Standing τ) :
    scanner.next subject standing =
      (scanner.told (nextKept scanner.config subject standing),
        nextKept scanner.config subject standing) := by
  rw [Scanner.next, if_neg (Bool.eq_false_iff.1 hlive), if_neg (Bool.eq_false_iff.1 hunspent)]
  cases nextKept scanner.config subject standing with
  | error fault stop => rfl
  | ok found stop =>
    cases found with
    | none | some token => rfl

theorem isSpent_eq_false_iff {scanner : Scanner} :
    scanner.isSpent = false ↔ ∀ most ∈ scanner.config.maxTokens, scanner.given < most := by
  unfold Scanner.isSpent
  cases scanner.config.maxTokens with
  | none => simp
  | some most => simp

/-- A scanner that is finished or has given enough tells nothing, and is finished then. -/
theorem next_of_over {scanner : Scanner} (hover : scanner.finished = true ∨ scanner.isSpent = true)
    (subject : σ) (standing : Standing τ) :
    scanner.next subject standing = ({ scanner with finished := true }, .ok none standing) := by
  rw [Scanner.next]
  by_cases hfinished : scanner.finished = true
  · rw [if_pos hfinished, ← hfinished]
  · rw [if_neg hfinished, if_pos (hover.resolve_left hfinished)]

end Lexer

/-- The refusals of a plain sequence are no complaints of the lexer. -/
theorem Sequence.plain {ε : Type} (s : Sequence ε) : Plain s where
  elementAt h := by
    change Sequence.elementAt s _ = _ at h
    unfold Sequence.elementAt at h
    split at h
    · cases h
    · cases h
      exact id
  after h := by
    change Sequence.after s _ = _ at h
    unfold Sequence.after at h
    split at h
    · cases h
    · cases h
      exact id
  slice h := by cases h

namespace ScalarView

variable {view : ScalarView} {index : Int} {fault : Fault}

theorem not_isLexical_width (h : view.width index = .error fault) : ¬ fault.IsLexical := by
  obtain h | ⟨lead, -, h⟩ := Fault.bind_eq_error.1 h
  · unfold byteAt at h
    split at h
    · cases h
    · cases h
      exact id
  dsimp only at h
  split at h
  · cases h
    exact id
  split at h
  · cases h
    exact id
  · cases h

theorem not_isLexical_slice {low high : Int} (h : view.slice low high = .error fault) :
    ¬ fault.IsLexical := by
  unfold slice at h
  split at h
  · cases h
  · cases h
    exact id

/-- The refusals of a view of UTF-8 are no complaints of the lexer. -/
theorem plain (view : ScalarView) : Plain view where
  elementAt h := by
    obtain h | ⟨chars, -, h⟩ := Fault.bind_eq_error.1 h
    · obtain h | ⟨width, -, h⟩ := Fault.bind_eq_error.1 h
      · exact not_isLexical_width h
      · exact not_isLexical_slice h
    · split at h
      · cases h
      · cases h
        exact id
  after h := by
    change view.after _ = _ at h
    unfold ScalarView.after at h
    split at h
    · obtain h | ⟨width, -, h⟩ := Fault.bind_eq_error.1 (Fault.map_eq_error.1 h)
      · exact not_isLexical_width h
      · cases h
    · cases h
      exact id
  slice h := not_isLexical_slice h

end ScalarView

end Scanning
