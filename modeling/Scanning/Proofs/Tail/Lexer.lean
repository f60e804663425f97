import Mathlib.Data.Option.Basic
import Scanning.Proofs.Lexer.Breaking
import Scanning.Proofs.Lexer.Cutting
import Scanning.Proofs.Tail.Basic

namespace Scanning

/-- The kind of a complaint of the lexer. -/
theorem Fault.isLexical_iff {fault : Fault} : fault.IsLexical ↔ fault.kind = .lexing := by
  cases fault with
  | parse failure =>
    obtain ⟨reader, complaint, offset⟩ := failure
    cases reader <;> simp [IsLexical, kind]
  | unreadable cause path => cases cause <;> simp [IsLexical, kind]
  | _ => simp [IsLexical, kind]

namespace Lexer

open IndexSpace Move Unicode InParallel

/-- Lowering the offsets of tokens loses nothing. -/
theorem Token.lowered_inj {k : Nat} {token token' : Token}
    (h : token.lowered k = token'.lowered k) : token = token' := by
  obtain ⟨kind, text, start, stop⟩ := token
  obtain ⟨kind', text', start', stop'⟩ := token'
  obtain ⟨rfl, rfl, hstart, hstop⟩ := Token.mk.inj h
  obtain rfl : start = start' := (Int.sub_left_inj k).1 hstart
  obtain rfl : stop = stop' := (Int.sub_left_inj k).1 hstop
  rfl

theorem Token.lowered_zero : Token.lowered 0 = id := by
  funext token
  simp [lowered]

/-- Failures of one kind, of which a complaint of the lexer is the same but for its offset. -/
def IsLowered (start : Nat) (fault fault' : Fault) : Prop :=
  fault.Alike fault' ∧ (fault.IsLexical → fault' = loweredFault start fault)

/-- Failures of one kind that are no complaints of the lexer correspond. -/
theorem IsLowered.of_similar {start : Nat} {fault fault' : Fault} (h : fault.Similar fault') :
    IsLowered start fault fault' := ⟨h.1, fun hlexical => absurd hlexical h.2⟩

/-- Failures that are the same when they are counted from an index on are the same. -/
theorem IsLowered.alike {start : Nat} {fault fault' lowered : Fault}
    (h : IsLowered start fault lowered) (h' : IsLowered start fault' lowered) :
    IsLowered 0 fault fault' := by
  have hkind : fault.kind = fault'.kind := h.1.trans h'.1.symm
  refine ⟨hkind, fun hlexical => ?_⟩
  have hlexical' : fault'.IsLexical :=
    Fault.isLexical_iff.2 (hkind.symm.trans (Fault.isLexical_iff.1 hlexical))
  have hsame := (h.2 hlexical).symm.trans (h'.2 hlexical')
  cases fault with
  | parse failure =>
    cases fault' with
    | parse failure' =>
      obtain ⟨reader, complaint, offset⟩ := failure
      obtain ⟨reader', complaint', offset'⟩ := failure'
      cases offset <;> cases offset' <;> simp_all [loweredFault]
    | _ => cases hlexical'
  | _ => cases hlexical

/-- The same complaint at corresponding indices is the same complaint, lowered. -/
theorem isLowered_parse {start : Nat} {index index' : Int} (h : Behind start index index')
    (complaint : Complaint) :
    IsLowered start (.parse ⟨.lexer, complaint, some index⟩)
      (.parse ⟨.lexer, complaint, some index'⟩) :=
  ⟨rfl, fun _ => congrArg (fun index => Fault.parse ⟨.lexer, complaint, some index⟩) h.eq_sub⟩

/-- A token and how it is given over the tail. -/
def IsGiven (start : Nat) (given given' : Option Token) : Prop :=
  given' = given.map (Token.lowered start)

theorem map_lowered_inj {start : Nat} {given given' : Option Token}
    (h : given.map (Token.lowered start) = given'.map (Token.lowered start)) : given = given' :=
  Option.map_injective (fun _ _ => Token.lowered_inj) h

theorem IsGiven.alike {start : Nat} {given given' lowered : Option Token}
    (h : IsGiven start given lowered) (h' : IsGiven start given' lowered) :
    IsGiven 0 given given' := by
  obtain rfl := map_lowered_inj (h.symm.trans h')
  rw [IsGiven, Token.lowered_zero, Option.map_id_fun, id_eq]

theorem isGiven_some {start : Nat} {low low' high high' : Int} (hlow : Behind start low low')
    (hhigh : Behind start high high') (kind : TokenKind) (text : String) :
    IsGiven start (some ⟨kind, text, low, high⟩) (some ⟨kind, text, low', high'⟩) := by
  exact congrArg some (Token.mk.injEq .. ▸ ⟨rfl, rfl, hlow.eq_sub, hhigh.eq_sub⟩)

variable {σ τ : Type} [IndexSpace σ Char]

/-- A token whose text cannot be taken out is not given. -/
theorem nextKept_of_slice_error {config : Config} {subject : σ} {standing standing' : Standing τ}
    {kind : TokenKind} {fault : Fault}
    (h : lexeme config subject standing = .ok (some kind) standing')
    (hdrops : config.drops kind = false)
    (hslice : slice subject standing.position standing'.position = .error fault) :
    nextKept config subject standing = .error fault standing' := by
  rw [nextKept]
  split <;> simp_all

/-- A scan gives the next token, and then the others. -/
theorem drain_eq (scanner : Scanner) (subject : σ) (standing : Standing τ) :
    scanner.drain subject standing =
      match scanner.next subject standing with
      | (_, .error fault stop) => ([], .error fault stop)
      | (_, .ok none stop) => ([], .ok () stop)
      | (scanner', .ok (some token) stop) =>
        (token :: (scanner'.drain subject stop).1, (scanner'.drain subject stop).2) := by
  rw [Scanner.drain]
  split
  case h_1 hnext => rw [hnext]
  case h_2 hnext => rw [hnext]
  case h_3 hnext => rw [hnext]

variable {subject tail : σ} {start : Nat} (h : Tail subject tail start)

include h

theorem inParallel_number :
    InParallel (IsLowered start) Eq subject tail start (number : Move σ τ Unit) number := by
  refine (h.advanceOver .of_similar isDigit).bind fun _ => (h.peek2 .of_similar).bind ?_
  rintro pair _ rfl
  split
  · split
    · exact (h.advance .of_similar).bind fun _ => h.advanceOver .of_similar isDigit
    · exact .pure rfl
  · exact .pure rfl

/-- A string is closed by the same quote, or left open by both. -/
theorem parallel_closeString (quote : Char) {first first' position position' : Int}
    (hfirst : Behind start first first') (hposition : Behind start position position') (memory : τ) :
    Parallel (IsLowered start) Eq start (closeString quote first subject ⟨position, memory⟩)
      (closeString quote first' tail ⟨position', memory⟩) := by
  -- A backslash leaves two characters behind at once, so the induction is on the room up to the end.
  obtain ⟨room, hroom⟩ : ∃ room, ((endIndex subject : Int) - position).toNat = room := ⟨_, rfl⟩
  induction room using Nat.strongRecOn generalizing position position' with
  | ind room ih =>
    have htake := h.takeAt hposition
    generalize hsubject : takeAt subject position = taken,
      htail : takeAt tail position' = taken' at htake
    cases htake with
    | error hsimilar =>
      rw [closeString_error hsubject, closeString_error htail]
      exact .error (.of_similar hsimilar) hposition memory
    | ok htaken =>
      cases htaken with
      | none =>
        rw [closeString_end hsubject, closeString_end htail]
        exact .error (isLowered_parse hfirst _) hposition memory
      | @some taken taken' htaken =>
        obtain ⟨c, next⟩ := taken
        obtain ⟨_, next'⟩ := taken'
        obtain ⟨rfl, hnext⟩ := htaken
        have hroom' := room_after_lt (after_of_takeAt hsubject)
        by_cases hbackslash : c = '\\'
        · subst hbackslash
          have hescape := h.takeAt hnext
          generalize hsubject' : takeAt subject next = escaped,
            htail' : takeAt tail next' = escaped' at hescape
          cases hescape with
          | error hsimilar =>
            rw [closeString_escape_error hsubject hsubject', closeString_escape_error htail htail']
            exact .error (.of_similar hsimilar) hnext memory
          | ok hescaped =>
            cases hescaped with
            | none =>
              rw [closeString_escape_end hsubject hsubject', closeString_escape_end htail htail']
              exact .error (isLowered_parse hfirst _) hnext memory
            | @some escaped escaped' hescaped =>
              have hroom'' := room_after_lt (after_of_takeAt hsubject')
              rw [closeString_escape hsubject hsubject', closeString_escape htail htail']
              exact ih _ (hroom ▸ Nat.lt_trans hroom'' hroom') hescaped.2 rfl
        by_cases hquote : c = quote
        · subst hquote
          rw [closeString_close hsubject hbackslash, closeString_close htail hbackslash]
          exact .ok rfl hnext memory
        · rw [closeString_plain hsubject hbackslash hquote, closeString_plain htail hbackslash hquote]
          exact ih _ (hroom ▸ hroom') hnext rfl

/-- The same string is read. -/
theorem inParallel_string (quote : Char) :
    InParallel (IsLowered start) Eq subject tail start (string quote : Move σ τ Unit)
      (string quote) := by
  refine InParallel.position.bind ?_
  intro first first' hfirst
  refine (h.advance .of_similar).bind ?_
  intro _ _ _ position position' memory hposition
  exact parallel_closeString h quote hfirst hposition memory

/-- The same lexeme is read from its first character on. -/
theorem inParallel_lexemeFrom (config : Config) (first : Char) :
    InParallel (IsLowered start) Eq subject tail start (lexemeFrom config first : Move σ τ TokenKind)
      (lexemeFrom config first) := by
  have hover (inClass : Char → Bool) (kind : TokenKind) :
      InParallel (IsLowered start) Eq subject tail start
        (do advanceOver inClass; return kind : Move σ τ TokenKind)
        (do advanceOver inClass; return kind) :=
    (h.advanceOver .of_similar inClass).bind fun _ => .pure rfl
  unfold lexemeFrom
  split
  · exact hover isBlank .space
  refine (h.startsWith .of_similar _).bind ?_
  rintro isComment _ rfl
  split
  · exact hover (· != '\n') .comment
  split
  · exact (inParallel_number h).bind fun _ => .pure rfl
  split
  · exact hover isWordChar .word
  split
  · exact (inParallel_string h first).bind fun _ => .pure rfl
  refine (h.readAnyPrefix .of_similar operators).bind ?_
  rintro isOperator _ rfl
  split
  · exact .pure rfl
  refine (h.popWhere .of_similar fun _ _ _ _ htest => by cases htest).bind ?_
  rintro found _ rfl
  split
  · exact .pure rfl
  · refine InParallel.position.bind ?_
    intro index index' hindex position position' memory hposition
    exact .error (isLowered_parse hindex _) hposition memory

/-- The same lexeme is read, or the same complaint raised, over a text and over its tail. -/
theorem inParallel_lexeme (config : Config) :
    InParallel (IsLowered start) Eq subject tail start (lexeme config : Move σ τ (Option TokenKind))
      (lexeme config) := by
  refine (h.peek .of_similar).bind ?_
  rintro found _ rfl
  split
  · exact (inParallel_lexemeFrom h config _).map (congrArg some ·)
  · exact .pure rfl

/-- The next token that is kept is the same over a text and over its tail, with offsets that are
lowered. -/
theorem parallel_nextKept (config : Config) {position position' : Int}
    (hposition : Behind start position position') (memory : τ) :
    Parallel (IsLowered start) (IsGiven start) start (nextKept config subject ⟨position, memory⟩)
      (nextKept config tail ⟨position', memory⟩) := by
  obtain ⟨room, hroom⟩ : ∃ room, ((endIndex subject : Int) - position).toNat = room := ⟨_, rfl⟩
  induction room using Nat.strongRecOn generalizing position position' memory with
  | ind room ih =>
    have hlexeme := inParallel_lexeme h config memory hposition
    generalize hsubject : lexeme config subject ⟨position, memory⟩ = outcome,
      htail : lexeme config tail ⟨position', memory⟩ = outcome' at hlexeme
    cases hlexeme with
    | error hfault hstop memory' =>
      rw [nextKept_of_error hsubject, nextKept_of_error htail]
      exact .error hfault hstop memory'
    | @ok found _ hsame stop stop' hstop memory' =>
      obtain rfl := hsame
      cases found with
      | none =>
        rw [nextKept_of_none hsubject, nextKept_of_none htail]
        exact .ok (show IsGiven start none none from rfl) hstop memory'
      | some kind =>
        have hroom' := (leadsPast_lexeme hsubject).room_lt
        cases hdrops : config.drops kind with
        | true =>
          rw [nextKept_of_dropped hsubject hdrops, nextKept_of_dropped htail hdrops]
          exact ih _ (hroom ▸ hroom') hstop memory' rfl
        | false =>
          have hslice := h.slice hposition hstop
          generalize hpiece : slice subject position stop = piece,
            hpiece' : slice tail position' stop' = piece' at hslice
          cases hslice with
          | error hsimilar =>
            rw [nextKept_of_slice_error hsubject hdrops hpiece,
              nextKept_of_slice_error htail hdrops hpiece']
            exact .error (.of_similar hsimilar) hstop memory'
          | ok hsame =>
            subst hsame
            rw [nextKept_of_kept hsubject hdrops hpiece, nextKept_of_kept htail hdrops hpiece']
            exact .ok (isGiven_some hposition hstop kind _) hstop memory'

/-- A scanner remembers the same. -/
theorem parallel_next (scanner : Scanner) {position position' : Int}
    (hposition : Behind start position position') (memory : τ) :
    (scanner.next tail ⟨position', memory⟩).1 = (scanner.next subject ⟨position, memory⟩).1 ∧
      Parallel (IsLowered start) (IsGiven start) start (scanner.next subject ⟨position, memory⟩).2
        (scanner.next tail ⟨position', memory⟩).2 := by
  have hnone : IsGiven start none none := rfl
  unfold Scanner.next
  split
  · exact ⟨rfl, .ok hnone hposition memory⟩
  split
  · exact ⟨rfl, .ok hnone hposition memory⟩
  have hkept := parallel_nextKept h scanner.config hposition memory
  generalize nextKept scanner.config subject ⟨position, memory⟩ = outcome,
    nextKept scanner.config tail ⟨position', memory⟩ = outcome' at hkept
  cases hkept with
  | error hfault hstop memory' => exact ⟨rfl, .error hfault hstop memory'⟩
  | @ok given given' hgiven stop stop' hstop memory' =>
    subst hgiven
    have hgiven : IsGiven start given (given.map (Token.lowered start)) := rfl
    cases given with
    | none | some => exact ⟨rfl, .ok hgiven hstop memory'⟩

/-- A whole scan gives the same tokens. -/
theorem parallel_drain (scanner : Scanner) {position position' : Int}
    (hposition : Behind start position position') (memory : τ) :
    (scanner.drain tail ⟨position', memory⟩).1 =
        (scanner.drain subject ⟨position, memory⟩).1.map (Token.lowered start) ∧
      Parallel (IsLowered start) Eq start (scanner.drain subject ⟨position, memory⟩).2
        (scanner.drain tail ⟨position', memory⟩).2 := by
  obtain ⟨room, hroom⟩ : ∃ room, ((endIndex subject : Int) - position).toNat = room := ⟨_, rfl⟩
  induction room using Nat.strongRecOn generalizing scanner position position' memory with
  | ind room ih =>
    obtain ⟨hscanner, hnext⟩ := parallel_next h scanner hposition memory
    rw [drain_eq scanner subject, drain_eq scanner tail]
    obtain ⟨⟨scanner', outcome⟩, hsubject⟩ :
      ∃ next, scanner.next subject ⟨position, memory⟩ = next := ⟨_, rfl⟩
    obtain ⟨⟨_, outcome'⟩, htail⟩ : ∃ next, scanner.next tail ⟨position', memory⟩ = next := ⟨_, rfl⟩
    rw [hsubject, htail] at hscanner hnext
    rw [hsubject, htail]
    obtain rfl := hscanner
    cases hnext with
    | error hfault hstop memory' => exact ⟨rfl, .error hfault hstop memory'⟩
    | @ok given given' hgiven stop stop' hstop memory' =>
      subst hgiven
      cases given with
      | none => exact ⟨rfl, .ok rfl hstop memory'⟩
      | some token =>
        have hroom' := (leadsPast_next hsubject).room_lt
        obtain ⟨htokens, hending⟩ := ih _ (hroom ▸ hroom') _ hstop memory' rfl
        exact ⟨congrArg (token.lowered start :: ·) htokens, hending⟩

end Lexer

end Scanning
