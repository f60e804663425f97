import Mathlib.Algebra.Group.Nat.Even
import Mathlib.Data.List.DropRight
import Mathlib.Order.Bounds.Basic
import Scanning.Proofs.Lexer.Reading

namespace Scanning.Lexer

open IndexSpace Move

variable {quote c : Char} {text body rest : List Char} {i : Nat}

/-- How many backslashes a text ends with. -/
def backslashesAtEnd (text : List Char) : Nat := (text.rtakeWhile (· == '\\')).length

theorem backslashesAtEnd_concat_backslash (text : List Char) :
    backslashesAtEnd (text ++ ['\\']) = backslashesAtEnd text + 1 := by
  rw [backslashesAtEnd, List.rtakeWhile_concat_pos _ _ _ rfl, List.length_append,
    List.length_singleton, backslashesAtEnd]

theorem backslashesAtEnd_concat_plain (hc : c ≠ '\\') (text : List Char) :
    backslashesAtEnd (text ++ [c]) = 0 := by
  have hother : ¬ (c == '\\') = true := mt beq_iff_eq.1 hc
  rw [backslashesAtEnd, List.rtakeWhile_concat_neg (· == '\\') text c hother, List.length_nil]

/-- A character that is no backslash in front does not matter. -/
theorem backslashesAtEnd_cons_plain (hc : c ≠ '\\') (text : List Char) :
    backslashesAtEnd (c :: text) = backslashesAtEnd text := by
  induction text using List.reverseRecOn with
  | nil => exact backslashesAtEnd_concat_plain hc []
  | append_singleton text d ih =>
    rw [← List.cons_append]
    by_cases hd : d = '\\'
    · subst hd
      rw [backslashesAtEnd_concat_backslash, backslashesAtEnd_concat_backslash, ih]
    · rw [backslashesAtEnd_concat_plain hd, backslashesAtEnd_concat_plain hd]

/-- A backslash and what it takes in front do not matter for the parity. -/
theorem even_backslashesAtEnd_escape (c : Char) (text : List Char) :
    Even (backslashesAtEnd ('\\' :: c :: text)) ↔ Even (backslashesAtEnd text) := by
  induction text using List.reverseRecOn with
  | nil =>
    by_cases hc : c = '\\'
    · subst hc
      decide
    · have hnone : backslashesAtEnd ['\\', c] = 0 := backslashesAtEnd_concat_plain hc ['\\']
      rw [hnone]
      rfl
  | append_singleton text d ih =>
    have hconcat : '\\' :: c :: (text ++ [d]) = ('\\' :: c :: text) ++ [d] := rfl
    rw [hconcat]
    by_cases hd : d = '\\'
    · subst hd
      rw [backslashesAtEnd_concat_backslash, backslashesAtEnd_concat_backslash, Nat.even_add_one,
        Nat.even_add_one, ih]
    · rw [backslashesAtEnd_concat_plain hd, backslashesAtEnd_concat_plain hd]

/-- The character number `i` is a quote, and the backslashes right in front of it pair up. -/
def Unescaped (quote : Char) (text : List Char) (i : Nat) : Prop :=
  text[i]? = some quote ∧ Even (backslashesAtEnd (text.take i))

theorem unescaped_zero : Unescaped quote (c :: text) 0 ↔ c = quote := by
  constructor
  · rintro ⟨hquote, -⟩
    exact Option.some.inj hquote
  · rintro rfl
    exact ⟨rfl, Even.zero⟩

theorem unescaped_succ (hc : c ≠ '\\') :
    Unescaped quote (c :: text) (i + 1) ↔ Unescaped quote text i := by
  rw [Unescaped, List.getElem?_cons_succ, List.take_succ_cons, backslashesAtEnd_cons_plain hc,
    Unescaped]

theorem not_unescaped_one : ¬ Unescaped quote ('\\' :: c :: text) 1 := by
  rintro ⟨-, heven⟩
  revert heven
  rw [List.take_succ_cons, List.take_zero]
  decide

/-- A backslash at the front and the character behind it escape nothing further on. -/
theorem unescaped_escape :
    Unescaped quote ('\\' :: c :: text) (i + 2) ↔ Unescaped quote text i := by
  rw [Unescaped, List.getElem?_cons_succ, List.getElem?_cons_succ, List.take_succ_cons,
    List.take_succ_cons, even_backslashesAtEnd_escape, Unescaped]

section Quote

variable (hquote : quote ≠ '\\')

include hquote

/-- The quote behind what quotes may enclose is the first one that is not escaped. -/
theorem Enclosed.isLeast_unescaped (hbody : Enclosed quote body) (rest : List Char) :
    IsLeast {i | Unescaped quote (body ++ quote :: rest) i} body.length := by
  induction hbody with
  | nil => exact ⟨unescaped_zero.2 rfl, fun i _ => Nat.zero_le i⟩
  | plain hbackslash hother hbody ih =>
    refine ⟨(unescaped_succ hbackslash).2 ih.1, ?_⟩
    intro i hi
    cases i with
    | zero => exact absurd (unescaped_zero.1 hi) hother
    | succ i => exact Nat.succ_le_succ (ih.2 ((unescaped_succ hbackslash).1 hi))
  | escape c hbody ih =>
    refine ⟨unescaped_escape.2 ih.1, ?_⟩
    intro i hi
    obtain _ | _ | i := i
    · exact absurd (unescaped_zero.1 hi).symm hquote
    · exact absurd hi not_unescaped_one
    · exact Nat.succ_le_succ (Nat.succ_le_succ (ih.2 (unescaped_escape.1 hi)))

/-- Where a quote is not escaped, some quote closes the string. -/
theorem exists_enclosed_of_unescaped (h : Unescaped quote text i) :
    ∃ body rest, Enclosed quote body ∧ text = body ++ quote :: rest := by
  -- An escape leaves two characters behind at once.
  induction i using Nat.strongRecOn generalizing text with
  | ind i ih =>
    obtain _ | ⟨c, text⟩ := text
    · cases h.1
    by_cases hbackslash : c = '\\'
    · subst hbackslash
      obtain _ | _ | i := i
      · exact absurd (unescaped_zero.1 h).symm hquote
      · obtain _ | ⟨d, text⟩ := text
        · cases h.1
        · exact absurd h not_unescaped_one
      · obtain _ | ⟨d, text⟩ := text
        · cases h.1
        · obtain ⟨body, rest, hbody, rfl⟩ := ih i (by omega) (unescaped_escape.1 h)
          exact ⟨'\\' :: d :: body, rest, .escape d hbody, rfl⟩
    by_cases hother : c = quote
    · subst hother
      exact ⟨[], text, .nil, rfl⟩
    obtain _ | i := i
    · exact absurd (unescaped_zero.1 h) hother
    · obtain ⟨body, rest, hbody, rfl⟩ := ih i (by omega) ((unescaped_succ hbackslash).1 h)
      exact ⟨c :: body, rest, .plain hbackslash hother hbody, rfl⟩

/-- A string is taken through the first quote that is not escaped, or is complained about at the end
if there is none. -/
theorem string_unescaped {σ τ : Type} [IndexSpace σ Char] {subject : σ} {chars : List Char}
    {place : Nat → Nat} {k : Nat} (layout : Layout subject chars place) (hk : k < chars.length)
    (memory : τ) :
    (∃ i, IsLeast {i | Unescaped quote (chars.drop (k + 1)) i} i ∧
      string quote subject ⟨place k, memory⟩ = .ok () ⟨place (k + 1 + i + 1), memory⟩) ∨
    (∀ i, ¬ Unescaped quote (chars.drop (k + 1)) i) ∧
      string quote subject ⟨place k, memory⟩ =
        .error (unterminated (place k)) ⟨place chars.length, memory⟩ := by
  rw [string_eq layout hk quote memory]
  obtain ⟨body, rest, -, hbody, htext, hclose⟩ | ⟨hopen, hclose⟩ :=
    closeString_eq layout (k := k + 1) hk quote (place k) memory
  · refine .inl ⟨body.length, ?_, hclose⟩
    rw [htext]
    exact hbody.isLeast_unescaped hquote rest
  · refine .inr ⟨?_, hclose⟩
    intro i hi
    obtain ⟨body, rest, hbody, htext⟩ := exists_enclosed_of_unescaped hquote hi
    exact hopen body rest hquote hbody htext

end Quote

/-- The text with a backslash in front of each quote and each backslash. -/
def escaped (quote : Char) (content : List Char) : List Char :=
  content.flatMap fun c => if c = quote ∨ c = '\\' then ['\\', c] else [c]

/-- Escaped text may stand between quotes. -/
theorem enclosed_escaped (quote : Char) (content : List Char) :
    Enclosed quote (escaped quote content) := by
  induction content with
  | nil => exact .nil
  | cons c content ih =>
    rw [escaped, List.flatMap_cons]
    by_cases hc : c = quote ∨ c = '\\'
    · rw [if_pos hc]
      exact .escape c ih
    · rw [if_neg hc]
      rw [not_or] at hc
      exact .plain hc.2 hc.1 ih

/-- The character number `e` closes the string that is opened by the one number `start`: it is the
quote, and the backslashes right in front of it, but behind the opening quote, pair up. -/
structure ClosesAt (quote : Char) (text : List Char) (start e : Nat) : Prop where
  behind : start < e
  is_quote : text[e]? = some quote
  even : Even (backslashesAtEnd ((text.take e).drop (start + 1)))

/-- The places that close a string are the unescaped quotes behind its opening one. -/
theorem closesAt_iff {text : List Char} {start e : Nat} :
    ClosesAt quote text start e ↔
      ∃ i, e = start + 1 + i ∧ Unescaped quote (text.drop (start + 1)) i := by
  constructor
  · rintro ⟨hbehind, hquote, heven⟩
    obtain ⟨i, rfl⟩ := Nat.exists_eq_add_of_le (Nat.succ_le_of_lt hbehind)
    refine ⟨i, rfl, ?_, ?_⟩
    · rw [List.getElem?_drop]
      exact hquote
    · rw [List.take_drop]
      exact heven
  · rintro ⟨i, rfl, hquote, heven⟩
    rw [List.getElem?_drop] at hquote
    rw [List.take_drop] at heven
    exact ⟨by omega, hquote, heven⟩

/-- The first place that closes a string, counted from the opening quote and from behind it. -/
theorem isLeast_closesAt {text : List Char} {start i : Nat}
    (h : IsLeast {i | Unescaped quote (text.drop (start + 1)) i} i) :
    IsLeast {e | ClosesAt quote text start e} (start + 1 + i) := by
  refine ⟨closesAt_iff.2 ⟨i, rfl, h.1⟩, ?_⟩
  intro e he
  obtain ⟨j, rfl, hj⟩ := closesAt_iff.1 he
  exact Nat.add_le_add_left (h.2 hj) (start + 1)

section Text

variable {τ : Type} {source : String} {start e : Nat} (hquote : quote ≠ '\\')
  (hopening : source.toList[start]? = some quote) (memory : τ)

include hquote hopening

/-- A string is read through the first place that closes it, or is complained about at the end if
there is none. -/
theorem string_closesAt :
    (∃ e, IsLeast {e | ClosesAt quote source.toList start e} e ∧
      string quote (Sequence.ofText source) ⟨start, memory⟩ = .ok () ⟨(e + 1 : Nat), memory⟩) ∨
    (∀ e, ¬ ClosesAt quote source.toList start e) ∧
      string quote (Sequence.ofText source) ⟨start, memory⟩ =
        .error (unterminated start) ⟨source.length, memory⟩ := by
  have hstart : start < source.toList.length := (List.getElem?_eq_some_iff.1 hopening).1
  obtain ⟨i, hleast, hread⟩ | ⟨hnone, hread⟩ :=
    string_unescaped hquote (Sequence.ofText source).layout hstart memory
  · exact .inl ⟨start + 1 + i, isLeast_closesAt hleast, hread⟩
  · refine .inr ⟨?_, ?_⟩
    · intro e he
      obtain ⟨i, -, hi⟩ := closesAt_iff.1 he
      exact hnone i hi
    · rw [← String.length_toList]
      exact hread

/-- The string is read up to the first place that closes it. -/
theorem string_of_isLeast (hfirst : IsLeast {e | ClosesAt quote source.toList start e} e) :
    string quote (Sequence.ofText source) ⟨start, memory⟩ = .ok () ⟨(e + 1 : Nat), memory⟩ := by
  obtain ⟨e', hfirst', hread⟩ | ⟨hnone, -⟩ := string_closesAt hquote hopening memory
  · rw [hfirst.unique hfirst']
    exact hread
  · exact absurd hfirst.1 (hnone e)

end Text

/-- How reading the string ends whose opening quote is the character number `start`. -/
structure ReadsString {τ : Type} (quote : Char) (source : String) (start : Nat) (memory : τ) :
    Prop where
  /-- It is read exactly if some place closes it. -/
  reads_iff :
    (∃ standing, string quote (Sequence.ofText source) ⟨start, memory⟩ = .ok () standing) ↔
      ∃ e, ClosesAt quote source.toList start e
  /-- It is read through the first place that closes it. -/
  reads (e : Nat) (hfirst : IsLeast {e | ClosesAt quote source.toList start e} e) :
    string quote (Sequence.ofText source) ⟨start, memory⟩ = .ok () ⟨(e + 1 : Nat), memory⟩
  /-- If no place closes it, the complaint is about its start, and the cursor is at the end. -/
  fails (hopen : ∀ e, ¬ ClosesAt quote source.toList start e) :
    ∃ failure : ParseFailure,
      string quote (Sequence.ofText source) ⟨start, memory⟩ =
        .error (.parse failure) ⟨source.length, memory⟩ ∧
      failure.reader = .lexer ∧ failure.complaint.message = "unterminated string" ∧
      failure.offset = some (start : Int)
  /-- Escaped text with a quote behind it is read whole, whatever follows. -/
  reads_escaped (content after : List Char)
    (hsource : source.toList.drop (start + 1) = escaped quote content ++ quote :: after) :
    string quote (Sequence.ofText source) ⟨start, memory⟩ =
      .ok () ⟨(start + (escaped quote content).length + 2 : Nat), memory⟩

/-- A string ends with the first quote that has an even number of backslashes right in front of
it. -/
theorem readsString {τ : Type} {quote : Char} (hquote : quote ≠ '\\') {source : String}
    {start : Nat} (hopening : source.toList[start]? = some quote) (memory : τ) :
    ReadsString quote source start memory := by
  have hends := string_closesAt hquote hopening memory
  refine ⟨?_, fun e => string_of_isLeast hquote hopening memory, ?_, ?_⟩
  · obtain ⟨e, hfirst, hread⟩ | ⟨hnone, hread⟩ := hends
    · exact ⟨fun _ => ⟨e, hfirst.1⟩, fun _ => ⟨_, hread⟩⟩
    · constructor
      · rintro ⟨standing, hread'⟩
        rw [hread] at hread'
        cases hread'
      · rintro ⟨e, he⟩
        exact absurd he (hnone e)
  · intro hopen
    obtain ⟨e, hfirst, -⟩ | ⟨-, hread⟩ := hends
    · exact absurd hfirst.1 (hopen e)
    · exact ⟨_, hread, rfl, rfl, rfl⟩
  · intro content after hsource
    have hleast := (enclosed_escaped quote content).isLeast_unescaped hquote after
    rw [← hsource] at hleast
    rw [string_of_isLeast hquote hopening memory (isLeast_closesAt hleast)]
    congr 3
    omega

/-- An escaped quote does not close a string, and what follows the closing quote does not matter. -/
theorem readsString_escapedQuote :
    '\'' ≠ '\\' ∧ " 'a\\'b' c'".toList[1]? = some '\'' ∧
      string '\'' (Sequence.ofText " 'a\\'b' c'") ⟨(1 : Nat), ()⟩ = .ok () ⟨(7 : Nat), ()⟩ := by
  have hquote : '\'' ≠ '\\' := by decide
  have hopening : " 'a\\'b' c'".toList[1]? = some '\'' := by decide
  refine ⟨hquote, hopening, ?_⟩
  exact (readsString hquote hopening ()).reads_escaped ['a', '\'', 'b'] [' ', 'c', '\''] (by decide)

end Scanning.Lexer
