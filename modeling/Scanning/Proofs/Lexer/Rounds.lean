import Scanning.Proofs.Lexer.Malformed
import Scanning.Proofs.Tail.Lexer

namespace Scanning

open IndexSpace

section Elements

variable {σ ε : Type} [IndexSpace σ ε] {subject : σ} {p q : Int}

/-- How many elements a walk forward comes by from an index on, up to the end or to an element that
no step leads past. -/
def elementsLeft (subject : σ) (index : Int) : Nat :=
  if index = endIndex subject then 0
  else match _ : after subject index with
    | .error _ => 1
    | .ok next => elementsLeft subject next + 1
termination_by ((endIndex subject : Int) - index).toNat
decreasing_by exact room_after_lt ‹_›

theorem elementsLeft_end : elementsLeft subject (endIndex subject) = 0 := by
  rw [elementsLeft, if_pos rfl]

theorem elementsLeft_pos (h : p ≠ endIndex subject) : 0 < elementsLeft subject p := by
  rw [elementsLeft, if_neg h]
  split <;> omega

/-- A step forward comes by one element. -/
theorem elementsLeft_of_after (h : after subject p = .ok q) :
    elementsLeft subject p = elementsLeft subject q + 1 := by
  have hlt := lt_after h
  have hle := after_le h
  rw [elementsLeft, if_neg (by omega)]
  split
  · simp_all
  · simp_all

/-- Each step has one element less before it. -/
theorem elementsLeft_lt (h : StepsPast subject p q) :
    elementsLeft subject q < elementsLeft subject p := by
  induction h with
  | single hafter =>
    rw [elementsLeft_of_after hafter]
    omega
  | tail _ hafter ih =>
    rw [elementsLeft_of_after hafter] at ih
    omega

/-- In a subject that is laid out as a list, the elements of the list behind a place are left. -/
theorem Layout.elementsLeft_place {elements : List ε} {place : Nat → Nat} {k : Nat}
    (layout : Layout subject elements place) (hk : k ≤ elements.length) :
    elementsLeft subject (place k) = elements.length - k := by
  obtain ⟨room, hroom⟩ : ∃ room, elements.length - k = room := ⟨_, rfl⟩
  induction room generalizing k with
  | zero =>
    obtain rfl : k = elements.length := by omega
    rw [layout.place_length, elementsLeft_end, Nat.sub_self]
  | succ room ih =>
    rw [elementsLeft_of_after (layout.after_place k (by omega)), ih (by omega) (by omega)]
    omega

end Elements

namespace Lexer

variable {σ τ : Type} [IndexSpace σ Char] {subject : σ} {scanner : Scanner}
  {standing standing' : Standing τ} {token : Option Token}

/-- What one round of a scan comes to: the scan is over, normally or with a failure, or it goes on
from where the lexeme ends, with a token if the lexeme is kept. -/
inductive Round (τ : Type) where
  | ends (ending : EStateM.Result Fault (Standing τ) Unit)
  | goesOn (token : Option Token) (standing : Standing τ)

/-- One round: the next lexeme, unless as many tokens have been given as may be. -/
def Scanner.round (scanner : Scanner) (subject : σ) (standing : Standing τ) : Round τ :=
  if scanner.isSpent then .ends (.ok () standing)
  else match lexeme scanner.config subject standing with
    | .error fault standing' => .ends (.error fault standing')
    | .ok none standing' => .ends (.ok () standing')
    | .ok (some kind) standing' =>
      if scanner.config.drops kind then .goesOn none standing'
      else match slice subject standing.position standing'.position with
        | .error fault => .ends (.error fault standing')
        | .ok chars =>
          .goesOn (some ⟨kind, String.ofList chars, standing.position, standing'.position⟩)
            standing'

/-- The scanner behind a round. -/
def Scanner.having (scanner : Scanner) (token : Option Token) : Scanner :=
  { scanner with given := scanner.given + token.toList.length }

/-- The tokens of a scan and its ending, if it needs no more than so many rounds. A round is begun
wherever the subject is not at its end. -/
def Scanner.loop (subject : σ) : Nat → Scanner → Standing τ →
    Option (List Token × EStateM.Result Fault (Standing τ) Unit)
  | 0, _, standing =>
    if standing.position = endIndex subject then some ([], .ok () standing) else none
  | rounds + 1, scanner, standing =>
    if standing.position = endIndex subject then some ([], .ok () standing)
    else match scanner.round subject standing with
      | .ends ending => some ([], ending)
      | .goesOn token standing' => do
        let (tokens, ending) ← loop subject rounds (scanner.having token) standing'
        return (token.toList ++ tokens, ending)

/-- How a round comes to what it does. -/
inductive ComesTo (scanner : Scanner) (subject : σ) (standing : Standing τ) : Round τ → Prop where
  | spent (hspent : scanner.isSpent = true) :
      ComesTo scanner subject standing (.ends (.ok () standing))
  | finished {standing' : Standing τ} (hunspent : scanner.isSpent = false)
      (hlexeme : lexeme scanner.config subject standing = .ok none standing') :
      ComesTo scanner subject standing (.ends (.ok () standing'))
  | failed {fault : Fault} {standing' : Standing τ} (hunspent : scanner.isSpent = false)
      (hlexeme : lexeme scanner.config subject standing = .error fault standing') :
      ComesTo scanner subject standing (.ends (.error fault standing'))
  | refused {kind : TokenKind} {fault : Fault} {standing' : Standing τ}
      (hunspent : scanner.isSpent = false)
      (hlexeme : lexeme scanner.config subject standing = .ok (some kind) standing')
      (hdrops : scanner.config.drops kind = false)
      (hslice : slice subject standing.position standing'.position = .error fault) :
      ComesTo scanner subject standing (.ends (.error fault standing'))
  | dropped {kind : TokenKind} {standing' : Standing τ} (hunspent : scanner.isSpent = false)
      (hlexeme : lexeme scanner.config subject standing = .ok (some kind) standing')
      (hdrops : scanner.config.drops kind = true) :
      ComesTo scanner subject standing (.goesOn none standing')
  | kept {kind : TokenKind} {chars : List Char} {standing' : Standing τ}
      (hunspent : scanner.isSpent = false)
      (hlexeme : lexeme scanner.config subject standing = .ok (some kind) standing')
      (hdrops : scanner.config.drops kind = false)
      (hslice : slice subject standing.position standing'.position = .ok chars) :
      ComesTo scanner subject standing
        (.goesOn (some ⟨kind, String.ofList chars, standing.position, standing'.position⟩)
          standing')

/-- Every round comes to what it does in one of these ways. -/
theorem comesTo_round (scanner : Scanner) (subject : σ) (standing : Standing τ) :
    ComesTo scanner subject standing (scanner.round subject standing) := by
  unfold Scanner.round
  split
  case isTrue hspent => exact .spent hspent
  case isFalse hunspent =>
    have hunspent := Bool.eq_false_iff.2 hunspent
    split
    case h_1 hlexeme => exact .failed hunspent hlexeme
    case h_2 hlexeme => exact .finished hunspent hlexeme
    case h_3 hlexeme =>
      split
      case isTrue hdrops => exact .dropped hunspent hlexeme hdrops
      case isFalse hdrops =>
        have hdrops := Bool.eq_false_iff.2 hdrops
        split
        case h_1 hslice => exact .refused hunspent hlexeme hdrops hslice
        case h_2 hslice => exact .kept hunspent hlexeme hdrops hslice

/-- A round after which the scan goes on has read a lexeme. -/
theorem stepsPast_round (h : scanner.round subject standing = .goesOn token standing') :
    StepsPast subject standing.position standing'.position := by
  have hround := comesTo_round scanner subject standing
  rw [h] at hround
  cases hround with
  | dropped _ hlexeme | kept _ hlexeme => exact stepsPast_lexeme hlexeme

/-- At the end there is no lexeme. -/
theorem lexeme_end (config : Config) (h : standing.position = endIndex subject) :
    lexeme config subject standing = .ok none standing := by
  have hpeek : Move.peek subject standing = .ok none standing := by
    simp [Move.peek, Move.look, h]
  rw [lexeme, Move.bind_of_ok hpeek]
  rfl

theorem drain_end (hlive : scanner.finished = false) (h : standing.position = endIndex subject) :
    scanner.drain subject standing = ([], .ok () standing) := by
  cases hspent : scanner.isSpent with
  | true => exact drain_of_isSpent hspent
  | false => exact drain_of_none hlive hspent (nextKept_of_none (lexeme_end _ h))

/-- A scan that a round ends gives nothing more. -/
theorem drain_of_ends (hlive : scanner.finished = false)
    {ending : EStateM.Result Fault (Standing τ) Unit}
    (h : scanner.round subject standing = .ends ending) :
    scanner.drain subject standing = ([], ending) := by
  have hround := comesTo_round scanner subject standing
  rw [h] at hround
  cases hround with
  | spent hspent => exact drain_of_isSpent hspent
  | finished hunspent hlexeme => exact drain_of_none hlive hunspent (nextKept_of_none hlexeme)
  | failed hunspent hlexeme => exact drain_of_error hlive hunspent (nextKept_of_error hlexeme)
  | refused hunspent hlexeme hdrops hslice =>
    exact drain_of_error hlive hunspent (nextKept_of_slice_error hlexeme hdrops hslice)

/-- A scan that goes on after a round gives its token and then what the scanner behind it gives. -/
theorem drain_of_goesOn (hlive : scanner.finished = false)
    (h : scanner.round subject standing = .goesOn token standing') :
    scanner.drain subject standing =
      (token.toList ++ ((scanner.having token).drain subject standing').1,
        ((scanner.having token).drain subject standing').2) := by
  have hround := comesTo_round scanner subject standing
  rw [h] at hround
  cases hround with
  | dropped hunspent hlexeme hdrops =>
    exact drain_congr hlive hunspent (nextKept_of_dropped hlexeme hdrops)
  | kept hunspent hlexeme hdrops hslice =>
    exact drain_of_some hlive hunspent (nextKept_of_kept hlexeme hdrops hslice)

/-- The loop is over after as many rounds as there are elements left, and gives what the scanner
gives. -/
theorem loop_eq_drain {rounds : Nat} (hlive : scanner.finished = false)
    (h : elementsLeft subject standing.position ≤ rounds) :
    scanner.loop subject rounds standing = some (scanner.drain subject standing) := by
  induction rounds generalizing scanner standing with
  | zero =>
    by_cases hend : standing.position = endIndex subject
    · rw [Scanner.loop, if_pos hend, drain_end hlive hend]
    · have hpos := elementsLeft_pos hend
      omega
  | succ rounds ih =>
    by_cases hend : standing.position = endIndex subject
    · rw [Scanner.loop, if_pos hend, drain_end hlive hend]
    rw [Scanner.loop, if_neg hend]
    cases hround : scanner.round subject standing with
    | ends ending => rw [drain_of_ends hlive hround]
    | goesOn token standing' =>
      -- One round is used up, and at least one element.
      have hlt := elementsLeft_lt (stepsPast_round hround)
      have hrest : Scanner.loop subject rounds (scanner.having token) standing' = _ :=
        ih hlive (by omega)
      rw [drain_of_goesOn hlive hround]
      dsimp only
      rw [hrest]
      rfl

/-- Wherever a scan begins and whatever it is told, a round after which it goes on has led strictly
forward, up to the end at most; it is over after at most as many rounds as there are elements left,
which in a text are the characters behind the place; and none of its tokens is empty. -/
theorem loop_elementsLeft (config : Config) (subject : σ) (standing : Standing τ) :
    (∀ (scanner : Scanner) (before after : Standing τ) (token : Option Token),
      scanner.round subject before = .goesOn token after →
        before.position < after.position ∧ after.position ≤ endIndex subject) ∧
    Scanner.loop subject (elementsLeft subject standing.position) { config } standing =
      some (Scanner.drain { config } subject standing) ∧
    (∀ (chars : List Char) (place : Nat → Nat), Layout subject chars place →
      ∀ k ≤ chars.length, elementsLeft subject (place k) = chars.length - k) ∧
    ∀ token ∈ (Scanner.drain { config } subject standing).1, token.start < token.stop := by
  refine ⟨?_, loop_eq_drain rfl (Nat.le_refl _), ?_, ?_⟩
  · intro scanner before after token hround
    exact (stepsPast_round hround).leadsPast
  · intro chars place layout k hk
    exact layout.elementsLeft_place hk
  · intro token hmem
    exact (isPiece_of_mem_drain _ _ _ token hmem).1.start_lt

end Lexer

end Scanning
