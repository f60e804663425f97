import Scanning.Pattern.Syntax
import Scanning.Unicode.Classes
import Scanning.Unicode.Folding

namespace Scanning.Pattern

/-- A letter of ASCII. -/
def isAsciiLetter (unit : Nat) : Bool :=
  (0x41 ≤ unit && unit ≤ 0x5A) || (0x61 ≤ unit && unit ≤ 0x7A)

/-- Whether a unit is in a class, by the classes of ASCII or of Unicode. -/
def Category.contains (ascii : Bool) (unit : Nat) : Category → Bool
  | digit => if ascii then 0x30 ≤ unit && unit ≤ 0x39 else Unicode.isDecimal (Char.ofNat unit)
  | space =>
    if ascii then unit == 0x20 || (0x09 ≤ unit && unit ≤ 0x0D)
    else Unicode.isBlank (Char.ofNat unit)
  | word =>
    unit == 0x5F ||
      (if ascii then isAsciiLetter unit || (0x30 ≤ unit && unit ≤ 0x39)
      else Unicode.isAlphanumeric (Char.ofNat unit))

/-- All units that count as equal to this one. -/
def variants (ignoreCase ascii : Bool) (unit : Nat) : List Nat :=
  if !ignoreCase then [unit]
  else if ascii then (if isAsciiLetter unit then [unit, unit ^^^ 0x20] else [unit])
  else Unicode.caseVariants unit

/-- Whether an item of a set covers a unit. -/
def SetItem.contains (ascii : Bool) (unit : Nat) : SetItem → Bool
  | .one other => unit == other
  | .range low high => low ≤ unit && unit ≤ high
  | .category kind negated => kind.contains ascii unit != negated

/-- The text that is matched, and how. -/
structure Ground where
  units : Array Nat
  ignoreCase : Bool
  multiline : Bool
  dotMatchesAll : Bool
  ascii : Bool

/-- How far a match has come, and what the groups hold; group number one comes first. -/
structure Spot where
  place : Nat
  groups : List (Option (Nat × Nat))
  deriving DecidableEq, Repr

/-- A way to match at a place, which is given what has to follow. It tries its ways in order until
what follows succeeds, so of several ways to match the first in the order of the alternatives wins,
where a repetition prefers more rounds unless it is lazy. -/
abbrev Matcher := Spot → (Spot → Option Spot) → Option Spot

/-- Takes one unit that passes. -/
def takeUnit (ground : Ground) (passes : Nat → Bool) : Matcher := fun spot next =>
  match ground.units[spot.place]? with
  | some unit => if passes unit then next { spot with place := spot.place + 1 } else none
  | none => none

/-- Whether a word character stands at a place. -/
def Ground.isWordAt (ground : Ground) (place : Nat) : Bool :=
  match ground.units[place]? with
  | some unit => Category.word.contains ground.ascii unit
  | none => false

/-- Whether exactly one side of the place is a word. -/
def Ground.isBoundary (ground : Ground) (place : Nat) : Bool :=
  (place != 0 && ground.isWordAt (place - 1)) != ground.isWordAt place

/-- Whether an anchor holds at a place. In an empty text there is neither a word boundary nor a
place without one. -/
def Anchor.holds (ground : Ground) (place : Nat) : Anchor → Bool
  | textStart => place == 0
  | lineStart => place == 0 || (ground.multiline && ground.units[place - 1]? == some 0x0A)
  | lineEnd =>
    place == ground.units.size ||
      (ground.units[place]? == some 0x0A &&
        (ground.multiline || place + 1 == ground.units.size))
  | textEnd => place == ground.units.size
  | wordBoundary => ground.units.size != 0 && ground.isBoundary place
  | noWordBoundary => ground.units.size != 0 && !ground.isBoundary place

/-- That many rounds. -/
def rounds (body : Matcher) : Nat → Matcher
  | 0 => fun spot next => next spot
  | count + 1 => fun spot next => body spot fun spot' => rounds body count spot' next

/-- More rounds, as many as there is a bound for, until one of them takes nothing. `last` is where
the round before began. The counter bounds the rounds that move on. -/
def moreRounds (body : Matcher) (isLazy : Bool) :
    Nat → Option Nat → Option Nat → Matcher
  | 0, _, _ => fun spot next => next spot
  | counter + 1, most, last => fun spot next =>
    let again (_ : Unit) : Option Spot :=
      if most = some 0 || last = some spot.place then none
      else body spot fun spot' =>
        moreRounds body isLazy counter (most.map (· - 1)) (some spot.place) spot' next
    if isLazy then
      match next spot with
      | some found => some found
      | none => again ()
    else
      match again () with
      | some found => some found
      | none => next spot

/-- The least number of rounds, then more of them. -/
def repeated (ground : Ground) (body : Matcher) (least : Nat) (most : Option Nat)
    (isLazy : Bool) : Matcher := fun spot next =>
  rounds body least spot fun spot' =>
    moreRounds body isLazy (ground.units.size - spot'.place + 2) (most.map (· - least)) none
      spot' next

/-- The first way to match, whatever follows. -/
def onlyFirst (matcher : Matcher) : Matcher := fun spot next =>
  match matcher spot some with
  | some found => next found
  | none => none

/-- Whether the units from `here` on repeat those from `start` up to `stop`. -/
def Ground.repeats (ground : Ground) (start stop here : Nat) : Bool :=
  (List.range (stop - start)).all fun k =>
    match ground.units[start + k]?, ground.units[here + k]? with
    | some a, some b => fold a == fold b
    | _, _ => false
where
  fold (unit : Nat) : Nat :=
    if !ground.ignoreCase then unit
    else if ground.ascii then (if 0x41 ≤ unit && unit ≤ 0x5A then unit + 0x20 else unit)
    else Unicode.lowerCode unit

/-- The matcher of a syntax tree. -/
def Node.matcher (ground : Ground) : Node → Matcher
  | empty => fun spot next => next spot
  | never => fun _ _ => none
  | unit code =>
    takeUnit ground (variants ground.ignoreCase ground.ascii code).contains
  | any => takeUnit ground fun unit => ground.dotMatchesAll || unit != 0x0A
  | set negated items =>
    takeUnit ground fun unit =>
      (items.any fun item =>
        (variants ground.ignoreCase ground.ascii unit).any (item.contains ground.ascii)) != negated
  | .anchor condition => fun spot next =>
    if condition.holds ground spot.place then next spot else none
  | sequence first second =>
    let first := first.matcher ground
    let second := second.matcher ground
    fun spot next => first spot fun spot' => second spot' next
  | choice first second =>
    let first := first.matcher ground
    let second := second.matcher ground
    fun spot next =>
      match first spot next with
      | some found => some found
      | none => second spot next
  | repetition least most greed body =>
    let body := body.matcher ground
    match greed with
    | .greedy => repeated ground body least most false
    | .lazy => repeated ground body least most true
    | .possessive => onlyFirst (repeated ground body least most false)
  | group number body =>
    let body := body.matcher ground
    fun spot next => body spot fun spot' =>
      next { spot' with groups := spot'.groups.set (number - 1) (some (spot.place, spot'.place)) }
  | reference number => fun spot next =>
    match spot.groups[number - 1]? with
    | some (some (start, stop)) =>
      if ground.repeats start stop spot.place then
        next { spot with place := spot.place + (stop - start) }
      else none
    | _ => none
  | ahead negated body =>
    let body := body.matcher ground
    fun spot next =>
      match body spot some with
      | some found => if negated then none else next { found with place := spot.place }
      | none => if negated then next spot else none
  | behind negated width body =>
    let body := body.matcher ground
    fun spot next =>
      let found :=
        if width ≤ spot.place then body { spot with place := spot.place - width } some else none
      match found with
      | some found => if negated then none else next { found with place := spot.place }
      | none => if negated then next spot else none
  | atomic body => onlyFirst (body.matcher ground)

/-- The match of a pattern at the start of the units: where it ends, and the spans of the groups. -/
def Regex.matchStart? (regex : Regex) (units : Array Nat) : Option Spot :=
  let ground : Ground := {
    units
    ignoreCase := regex.options.ignoreCase
    multiline := regex.options.multiline
    dotMatchesAll := regex.options.dotMatchesAll
    ascii := regex.options.asciiClasses || regex.alphabet = .bytes }
  regex.node.matcher ground ⟨0, List.replicate regex.groups none⟩ some

end Scanning.Pattern
