import Scanning.Move.Basic
import Scanning.Pattern.Extent
import Scanning.Pattern.Reader
import Scanning.Subject

namespace Scanning.Session

open Pattern (Alphabet Options Regex Spot)

/-- A pattern to be matched: one that still has to be read, or one that was read before with options
of its own. The rest of the subject is matched by itself: the position counts as the start of the
text, and nothing in front of it is seen. -/
structure PatternText where
  text : String
  alphabet : Alphabet
  options : Option Options
  deriving DecidableEq, Repr

/-- A match: the pieces of the whole and of the groups, and their places behind the position. -/
structure Found where
  pieces : List Value
  spans : List (Option (Nat × Nat))
  length : Nat
  deriving Repr

/-- The pattern that a text is. -/
def PatternText.read (pattern : PatternText) : Except Fault Regex :=
  match Regex.ofText? pattern.alphabet (pattern.options.getD {}) pattern.text with
  | some regex => .ok regex
  | none => .error .badPattern

/-- A piece of the units as a value. -/
def pieceOf (alphabet : Alphabet) (units : Array Nat) : Option (Nat × Nat) → Value
  | some (start, stop) =>
    let piece := (units.extract start stop).toList
    match alphabet with
    | .text => .text (String.ofList (piece.map Char.ofNat))
    | .bytes => .bytes false (piece.map UInt8.ofNat)
  | none => .none

/-- The match of a pattern at the start of units, which have to be over its alphabet. -/
def foundIn (regex : Regex) (alphabet : Alphabet) (units : Array Nat) :
    Except Fault (Option Found) :=
  if regex.alphabet ≠ alphabet then .error (.patternAlphabet (regex.alphabet = .text))
  else match regex.matchStart? units with
    | none => .ok none
    | some spot =>
      let spans := some (0, spot.place) :: spot.groups
      .ok (some ⟨spans.map (pieceOf alphabet units), spans, spot.place⟩)

/-- A match covers no more than there is of the text. -/
theorem length_le_of_foundIn {regex : Regex} {alphabet : Alphabet} {units : Array Nat}
    {found : Found} (h : foundIn regex alphabet units = .ok (some found)) : found.length ≤ units.size := by
  unfold foundIn at h
  split at h
  · cases h
  split at h
  · cases h
  · cases h
    exact Pattern.Regex.place_le_of_matchStart? ‹_›

/-- A pattern as moves know it: what matches is a function of the text that is given, whatever the
syntax of patterns, and a match does not go beyond that text. -/
structure Engine where
  /-- What was wrong with a pattern that had to be read before it came here. -/
  ready : Except Fault Unit
  /-- The match at the start of a text, of which the units are given. -/
  find : Alphabet → Array Nat → Except Fault (Option Found)
  length_le : ∀ {alphabet : Alphabet} {units : Array Nat} {found : Found},
    find alphabet units = .ok (some found) → found.length ≤ units.size

/-- A pattern with options was read before it came here, and other patterns are read once the
subject is known to have units. -/
def PatternText.engine (pattern : PatternText) : Engine where
  ready := if pattern.options.isSome then discard pattern.read else pure ()
  find alphabet units := do foundIn (← pattern.read) alphabet units
  length_le h := by
    cases hread : pattern.read with
    | error fault =>
      rw [hread] at h
      cases h
    | ok regex =>
      rw [hread] at h
      exact length_le_of_foundIn h

instance : Coe PatternText Engine := ⟨PatternText.engine⟩

/-- The match of a pattern at an index. -/
def matchAt (engine : Engine) (subject : Subject) (index : Int) : Except Fault (Option Found) := do
  engine.ready
  let (alphabet, units) ← subject.units index
  engine.find alphabet units

variable {τ : Type}

/-- Whether the subject goes on with a match. -/
def hasPrefixMatch (engine : Engine) : Move Subject τ Bool :=
  Move.look fun subject index => Option.isSome <$> matchAt engine subject index

/-- Takes a match. -/
def readMatch (engine : Engine) : Move Subject τ (Option Found) :=
  Move.consume fun subject index => do
    match ← matchAt engine subject index with
    | some found => return (some found, index + found.length)
    | none => return (none, index)

/-- Advances past a match. -/
def advanceMatching (engine : Engine) : Move Subject τ Bool :=
  Option.isSome <$> readMatch engine

end Scanning.Session
