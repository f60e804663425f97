import Scanning.Proofs.Layout.Broken
import Scanning.Proofs.Lexer.Selection

namespace Scanning.Lexer

open IndexSpace Move Unicode

/-- How an outcome over a subject that breaks off follows the outcome over the subject that ends
there: it is refused, or it is the same and no complaint about an unterminated string. -/
inductive Follows {σ α : Type} (fault : Fault) :
    EStateM.Result Fault σ α → EStateM.Result Fault σ α → Prop where
  | refused (outcome : EStateM.Result Fault σ α) (standing : σ) :
      Follows fault (.error fault standing) outcome
  | ok (answer : α) (standing : σ) : Follows fault (.ok answer standing) (.ok answer standing)
  | unexpected (c : Char) (index : Int) (standing : σ) :
      Follows fault (.error (.parse ⟨.lexer, .unexpectedCharacter c, some index⟩) standing)
        (.error (.parse ⟨.lexer, .unexpectedCharacter c, some index⟩) standing)

section Combining

variable {σ τ α β : Type} {move : Move σ τ α} {subject front : σ} {standing : Standing τ}
  {fault : Fault}

/-- What goes on after a move follows if it does so from wherever the move leads. -/
theorem Follows.bind {f : α → Move σ τ β}
    (h : Follows fault (move subject standing) (move front standing))
    (hf : ∀ answer standing', move front standing = .ok answer standing' →
      Follows fault (f answer subject standing') (f answer front standing')) :
    Follows fault ((move >>= f) subject standing) ((move >>= f) front standing) := by
  generalize hsubject : move subject standing = outcome at h
  generalize hfront : move front standing = expected at h
  cases h with
  | refused _ standing' =>
    rw [bind_of_error hsubject]
    exact .refused _ _
  | ok answer standing' =>
    rw [bind_of_ok hsubject, bind_of_ok hfront]
    exact hf answer standing' hfront
  | unexpected c index standing' =>
    rw [bind_of_error hsubject, bind_of_error hfront]
    exact .unexpected c index standing'

theorem Follows.map {f : α → β} (h : Follows fault (move subject standing) (move front standing)) :
    Follows fault ((f <$> move) subject standing) ((f <$> move) front standing) := by
  generalize hsubject : move subject standing = outcome at h
  generalize hfront : move front standing = expected at h
  cases h with
  | refused _ standing' =>
    rw [map_of_error hsubject]
    exact .refused _ _
  | ok answer standing' =>
    rw [map_eq_ok.2 ⟨answer, hsubject, rfl⟩, map_eq_ok.2 ⟨answer, hfront, rfl⟩]
    exact .ok _ _
  | unexpected c index standing' =>
    rw [map_of_error hsubject, map_of_error hfront]
    exact .unexpected c index standing'

end Combining

variable {σ τ : Type} [IndexSpace σ Char] {subject front : σ} {chars : List Char}
  {place : Nat → Nat} {fault : Fault} {k : Nat} {memory : τ}

section Moves

variable (broken : Broken subject chars place fault) (layout : Layout front chars place)

include broken layout

/-- Looking for expected characters is refused at the break, or answered as over the subject that
ends there. -/
theorem follows_startsWith (hk : k ≤ chars.length) (expected : List Char) (memory : τ) :
    Follows fault (startsWith expected subject ⟨place k, memory⟩)
      (startsWith expected front ⟨place k, memory⟩) := by
  simp only [startsWith, look]
  rw [layout.prefixEnd_eq hk]
  obtain hends | hends := broken.prefixEnd_eq hk expected
  · rw [hends]
    exact .refused _ _
  · rw [hends]
    exact .ok _ _

theorem follows_readPrefix (hk : k ≤ chars.length) (expected : List Char) (memory : τ) :
    Follows fault (readPrefix expected subject ⟨place k, memory⟩)
      (readPrefix expected front ⟨place k, memory⟩) := by
  simp only [readPrefix, consume]
  rw [layout.prefixEnd_eq hk]
  obtain hends | hends := broken.prefixEnd_eq hk expected
  · rw [hends]
    exact .refused _ _
  · rw [hends]
    cases goesOn (chars.drop k) expected with
    | false => exact .ok _ _
    | true => exact .ok _ _

theorem follows_readAnyPrefix (hk : k ≤ chars.length) (lists : List (List Char)) (memory : τ) :
    Follows fault (readAnyPrefix lists subject ⟨place k, memory⟩)
      (readAnyPrefix lists front ⟨place k, memory⟩) := by
  induction lists with
  | nil => exact .ok _ _
  | cons list others ih =>
    refine (follows_readPrefix broken layout hk list memory).bind ?_
    intro found standing hread
    cases found with
    | true => exact .ok _ _
    | false =>
      obtain rfl := readPrefix_false hread
      exact ih

/-- Advancing over a class is refused, or ends at an element in front of the break. -/
theorem advanceOver_breaks (hk : k ≤ chars.length) (inClass : Char → Bool) (memory : τ) :
    (∃ standing, advanceOver inClass subject ⟨place k, memory⟩ = .error fault standing) ∨
      ∃ stop < chars.length, advanceOver inClass subject ⟨place k, memory⟩ =
          .ok () ⟨place stop, memory⟩ ∧
        advanceOver inClass front ⟨place k, memory⟩ = .ok () ⟨place stop, memory⟩ := by
  have hle : ((chars.drop k).takeWhile inClass).length ≤ (chars.drop k).length :=
    (List.takeWhile_prefix inClass).length_le
  rw [List.length_drop] at hle
  rw [broken.advanceOver_eq hk inClass]
  by_cases hbreak : k + ((chars.drop k).takeWhile inClass).length = chars.length
  · rw [if_pos hbreak]
    exact .inl ⟨_, rfl⟩
  · rw [if_neg hbreak]
    exact .inr ⟨_, by omega, rfl, layout.advanceOver_eq hk inClass⟩

/-- A run up to the break is refused there; a run that stops before is the same. -/
theorem follows_advanceOver (hk : k ≤ chars.length) (inClass : Char → Bool) (memory : τ) :
    Follows fault (advanceOver inClass subject ⟨place k, memory⟩)
      (advanceOver inClass front ⟨place k, memory⟩) := by
  obtain ⟨standing, hmove⟩ | ⟨stop, -, hmove, hfront⟩ :=
    advanceOver_breaks broken layout hk inClass memory
  · rw [hmove]
    exact .refused _ _
  · rw [hmove, hfront]
    exact .ok _ _

/-- In front of the last character two are seen alike; at the last one the second is refused. -/
theorem follows_peek2 (hk : k < chars.length) (memory : τ) :
    Follows fault (peek2 subject ⟨place k, memory⟩) (peek2 front ⟨place k, memory⟩) := by
  rw [broken.peek2_eq hk, layout.peek2_eq (by omega)]
  by_cases hlast : k + 1 = chars.length
  · rw [if_pos hlast]
    exact .refused _ _
  · rw [if_neg hlast]
    exact .ok _ _

theorem follows_advance (hk : k < chars.length) (memory : τ) :
    Follows fault (advance subject ⟨place k, memory⟩) (advance front ⟨place k, memory⟩) := by
  rw [broken.advance_eq hk, layout.advance_eq hk]
  exact .ok _ _

theorem follows_popWhere (hk : k < chars.length) (inClass : Char → Bool) (memory : τ) :
    Follows fault (popWhere (fun c => return inClass c) subject ⟨place k, memory⟩)
      (popWhere (fun c => return inClass c) front ⟨place k, memory⟩) := by
  rw [broken.popWhere_inClass hk, layout.popWhere_inClass hk]
  cases inClass chars[k] with
  | false => exact .ok _ _
  | true => exact .ok _ _

/-- The digits in front of a point end short of the break, and so the look at what follows them
begins at an element. -/
theorem follows_number (hk : k ≤ chars.length) (memory : τ) :
    Follows fault (number subject ⟨place k, memory⟩) (number front ⟨place k, memory⟩) := by
  obtain ⟨standing, hdigits⟩ | ⟨stop, hstop, hdigits, hfront⟩ :=
    advanceOver_breaks broken layout hk isDigit memory
  · rw [number, bind_of_error hdigits]
    exact .refused _ _
  rw [number, bind_of_ok hdigits, bind_of_ok hfront]
  refine (follows_peek2 broken layout hstop memory).bind ?_
  intro pair standing hpair
  obtain ⟨-, rfl⟩ := look_eq_ok.1 hpair
  cases pair with
  | none => exact .ok _ _
  | some pair =>
    dsimp only
    split
    · refine (follows_advance broken layout hstop memory).bind ?_
      intro _ standing hpoint
      rw [layout.advance_eq hstop] at hpoint
      cases hpoint
      exact follows_advanceOver broken layout hstop isDigit memory
    · exact .ok _ _

end Moves

section CloseString

variable {quote : Char} {start p next : Int}

/-- The search for the closing quote fails where there is no character to take. -/
theorem closeString_error (htake : takeAt subject p = .error fault) :
    closeString quote start subject ⟨p, memory⟩ = .error fault ⟨p, memory⟩ := by
  rw [closeString]
  split <;> simp_all

/-- Behind a backslash the search fails if the escaped character cannot be taken. -/
theorem closeString_escape_error (htake : takeAt subject p = .ok (some ('\\', next)))
    (herror : takeAt subject next = .error fault) :
    closeString quote start subject ⟨p, memory⟩ = .error fault ⟨next, memory⟩ := by
  rw [closeString]
  split <;> simp_all
  split <;> simp_all

/-- A string that is not closed in front of the break is refused there. -/
theorem follows_closeString (broken : Broken subject chars place fault)
    (layout : Layout front chars place) (hk : k ≤ chars.length) (quote : Char) (start : Int)
    (memory : τ) :
    Follows fault (closeString quote start subject ⟨place k, memory⟩)
      (closeString quote start front ⟨place k, memory⟩) := by
  -- A backslash leaves two characters behind at once, so the induction is on how many are left.
  obtain ⟨room, hroom⟩ : ∃ room, chars.length - k = room := ⟨_, rfl⟩
  induction room using Nat.strongRecOn generalizing k with
  | ind room ih =>
    by_cases hbreak : k = chars.length
    · subst hbreak
      rw [closeString_error broken.takeAt_break]
      exact .refused _ _
    have htake := broken.takeAt_eq (k := k) (by omega)
    have hfront := layout.takeAt_eq (k := k) (by omega)
    generalize chars[k] = c at htake hfront
    by_cases hbackslash : c = '\\'
    · subst hbackslash
      by_cases hbreak' : k + 1 = chars.length
      · rw [hbreak'] at htake
        rw [closeString_escape_error htake broken.takeAt_break]
        exact .refused _ _
      rw [closeString_escape htake (broken.takeAt_eq (k := k + 1) (by omega)),
        closeString_escape hfront (layout.takeAt_eq (k := k + 1) (by omega))]
      exact ih (chars.length - (k + 1 + 1)) (by omega) (by omega) rfl
    by_cases hquote : c = quote
    · subst hquote
      rw [closeString_close htake hbackslash, closeString_close hfront hbackslash]
      exact .ok _ _
    · rw [closeString_plain htake hbackslash hquote, closeString_plain hfront hbackslash hquote]
      exact ih (chars.length - (k + 1)) (by omega) (by omega) rfl

end CloseString

section Lexemes

variable (broken : Broken subject chars place fault) (layout : Layout front chars place)

include broken layout

/-- A string that comes to the break is refused there: it is never found to be unterminated, since
only the end of the subject could tell. -/
theorem follows_string (hk : k < chars.length) (quote : Char) (memory : τ) :
    Follows fault (string quote subject ⟨place k, memory⟩)
      (string quote front ⟨place k, memory⟩) := by
  have hstart : position subject ⟨place k, memory⟩ =
      .ok (place k : Int) (⟨place k, memory⟩ : Standing τ) := rfl
  have hfront : position front ⟨place k, memory⟩ =
      .ok (place k : Int) (⟨place k, memory⟩ : Standing τ) := rfl
  rw [string, bind_of_ok hstart, bind_of_ok hfront]
  refine (follows_advance broken layout hk memory).bind ?_
  intro _ standing hopen
  rw [layout.advance_eq hk] at hopen
  cases hopen
  exact follows_closeString broken layout hk quote (place k) memory

/-- One case for each branch of the reader. -/
theorem follows_lexemeFrom (hk : k < chars.length) (config : Config) (first : Char)
    (memory : τ) :
    Follows fault (lexemeFrom config first subject ⟨place k, memory⟩)
      (lexemeFrom config first front ⟨place k, memory⟩) := by
  have hle := Nat.le_of_lt hk
  unfold lexemeFrom
  split
  · exact (follows_advanceOver broken layout hle isBlank memory).bind fun _ _ _ => .ok _ _
  refine (follows_startsWith broken layout hle _ memory).bind ?_
  intro isComment standing hlook
  obtain ⟨-, rfl⟩ := look_eq_ok.1 hlook
  split
  · exact (follows_advanceOver broken layout hle (· != '\n') memory).bind fun _ _ _ => .ok _ _
  split
  · exact (follows_number broken layout hle memory).bind fun _ _ _ => .ok _ _
  split
  · exact (follows_advanceOver broken layout hle isWordChar memory).bind fun _ _ _ => .ok _ _
  split
  · exact (follows_string broken layout hk first memory).bind fun _ _ _ => .ok _ _
  refine (follows_readAnyPrefix broken layout hle operators memory).bind ?_
  intro isOperator standing hread
  cases isOperator with
  | true => exact .ok _ _
  | false =>
    obtain rfl := readAnyPrefix_false hread
    rw [if_neg Bool.false_ne_true]
    refine (follows_popWhere broken layout hk config.punctuation.toList.contains memory).bind ?_
    intro taken standing _
    cases taken with
    | some c => exact .ok _ _
    | none => exact .unexpected first standing.position standing

/-- In front of the break a lexeme is refused, or it is the same lexeme, and then no string is
complained about. -/
theorem follows_lexeme (hk : k < chars.length) (config : Config) (memory : τ) :
    Follows fault (lexeme config subject ⟨place k, memory⟩)
      (lexeme config front ⟨place k, memory⟩) := by
  have hpeek : peek subject ⟨place k, memory⟩ = _ := broken.peek_eq hk
  have hfront : peek front ⟨place k, memory⟩ = _ := layout.begins.peek_eq hk
  rw [lexeme, bind_of_ok hpeek, bind_of_ok hfront]
  exact (follows_lexemeFrom broken layout hk config chars[k] memory).map

end Lexemes

theorem lexeme_break (broken : Broken subject chars place fault) (config : Config) (memory : τ) :
    lexeme config subject ⟨place chars.length, memory⟩ =
      .error fault ⟨place chars.length, memory⟩ := by
  have hpeek : peek subject ⟨place chars.length, memory⟩ = _ := broken.peek_break
  rw [lexeme, bind_of_error hpeek]

/-- How a scan of a subject that breaks off ends, and the scan of the subject that ends there: it is
refused, or both complain about the same character. -/
inductive BreaksOff (fault : Fault) : Option Fault → Option Fault → Prop where
  | refused (ending : Option Fault) : BreaksOff fault (some fault) ending
  | unexpected (c : Char) (index : Int) :
      BreaksOff fault (some (.parse ⟨.lexer, .unexpectedCharacter c, some index⟩))
        (some (.parse ⟨.lexer, .unexpectedCharacter c, some index⟩))

/-- Without a limit on the tokens, a scan comes to the break if it does not fail before. -/
theorem drain_breaks {config : Config} (broken : Broken subject chars place fault)
    (layout : Layout front chars place) (hlimit : config.maxTokens = none) (hk : k ≤ chars.length)
    (given : Nat) (memory : τ) :
    BreaksOff fault (faultOf (Scanner.drain { config, given } subject ⟨place k, memory⟩).2)
      (faultOf (Scanner.drain { config, given } front ⟨place k, memory⟩).2) := by
  obtain ⟨room, hroom⟩ : ∃ room, chars.length - k = room := ⟨_, rfl⟩
  induction room using Nat.strongRecOn generalizing k given with
  | ind room ih =>
    have hunspent : Scanner.isSpent { config, given } = false :=
      isSpent_eq_false (by simp [hlimit])
    by_cases hbreak : k = chars.length
    · subst hbreak
      rw [drain_of_error rfl hunspent (nextKept_of_error (lexeme_break broken config memory))]
      exact .refused _
    obtain ⟨verdict, hreads⟩ := exists_reads config (chars.drop k)
    have hfront : lexeme config front ⟨place k, memory⟩ = _ := lexeme_of_reads layout hk hreads
    have hfollows := follows_lexeme broken layout (k := k) (by omega) config memory
    rw [hfront] at hfollows
    generalize hsubject : lexeme config subject ⟨place k, memory⟩ = outcome at hfollows
    cases verdict with
    | finished =>
      generalize hrest : chars.drop k = rest at hreads
      cases hreads
      have hle := List.drop_eq_nil_iff.1 hrest
      omega
    | unterminated =>
      cases hfollows with
      | refused _ standing =>
        rw [drain_of_error rfl hunspent (nextKept_of_error hsubject)]
        exact .refused _
    | unexpected c =>
      rw [drain_of_error rfl hunspent (nextKept_of_error hfront)]
      cases hfollows with
      | refused _ standing =>
        rw [drain_of_error rfl hunspent (nextKept_of_error hsubject)]
        exact .refused _
      | unexpected _ _ standing =>
        rw [drain_of_error rfl hunspent (nextKept_of_error hsubject)]
        exact .unexpected c (place k)
    | lexeme kind lexeme =>
      cases hfollows with
      | refused _ standing =>
        rw [drain_of_error rfl hunspent (nextKept_of_error hsubject)]
        exact .refused _
      | ok =>
        obtain ⟨hlt, hle, after, htext⟩ := hreads.exists_piece hk
        have hshorter : chars.length - (k + lexeme.length) < room := by omega
        cases hdrops : config.drops kind with
        | true =>
          rw [drain_congr rfl hunspent (nextKept_of_dropped hsubject hdrops),
            drain_congr rfl hunspent (nextKept_of_dropped hfront hdrops)]
          exact ih _ hshorter hle given rfl
        | false =>
          have hpiece := broken.slice_piece hk htext
          have hpiece' := layout.slice_piece hk htext
          rw [drain_of_some rfl hunspent (nextKept_of_kept hsubject hdrops hpiece),
            drain_of_some rfl hunspent (nextKept_of_kept hfront hdrops hpiece')]
          exact ih _ hshorter hle (given + 1) rfl

/-- A scan without a limit over a subject that breaks off is refused at the break, or complains
about the same character as the scan of the subject that ends there. -/
theorem scanAll_breaks {config : Config} (broken : Broken subject chars place fault)
    (layout : Layout front chars place) (hlimit : config.maxTokens = none) :
    BreaksOff fault (scanAll config subject).2 (scanAll config front).2 := by
  have hdrain := drain_breaks broken layout hlimit (Nat.zero_le _) 0 ()
  rw [layout.place_zero] at hdrain
  rw [scanAll_eq, scanAll_eq]
  exact hdrain

end Scanning.Lexer
