namespace Scanning.Pattern

/-- What a pattern is written for. -/
inductive Alphabet where
  | text
  | bytes
  deriving DecidableEq, Repr

/-- How a pattern is to be read. -/
structure Options where
  ignoreCase : Bool := false
  multiline : Bool := false
  dotMatchesAll : Bool := false
  asciiClasses : Bool := false
  deriving DecidableEq, Repr

/-- The classes that have an escape of their own. -/
inductive Category where
  | digit
  | space
  | word
  deriving DecidableEq, Repr

/-- What stands in a set of units. -/
inductive SetItem where
  | one (unit : Nat)
  | range (low high : Nat)
  | category (category : Category) (negated : Bool)
  deriving DecidableEq, Repr

/-- Conditions on a place between units. -/
inductive Anchor where
  | textStart
  | lineStart
  | lineEnd
  | textEnd
  | wordBoundary
  | noWordBoundary
  deriving DecidableEq, Repr

/-- How eager a repetition is: as much as possible, as little as possible, or as much as possible
without ever giving back. -/
inductive Greed where
  | greedy
  | lazy
  | possessive
  deriving DecidableEq, Repr

/-- The syntax tree of a pattern. -/
inductive Node where
  | empty
  | never
  | unit (unit : Nat)
  | any
  | set (negated : Bool) (items : List SetItem)
  | anchor (anchor : Anchor)
  | sequence (first second : Node)
  | choice (first second : Node)
  | repetition (least : Nat) (most : Option Nat) (greed : Greed) (body : Node)
  | group (number : Nat) (body : Node)
  | reference (number : Nat)
  | ahead (negated : Bool) (body : Node)
  /-- Looks at the `width` units in front. -/
  | behind (negated : Bool) (width : Nat) (body : Node)
  | atomic (body : Node)
  deriving Repr, Inhabited

/-- A pattern that has been read. -/
structure Regex where
  alphabet : Alphabet
  options : Options
  groups : Nat
  node : Node
  deriving Repr

/-- The least and the greatest number of units that a node takes; no greatest one if there is no
bound. The widths of earlier groups are given by number. -/
def Node.width (groupWidth : Nat → Nat × Option Nat) : Node → Nat × Option Nat
  | empty | never | anchor _ | ahead _ _ | behind _ _ _ => (0, some 0)
  | unit _ | any | set _ _ => (1, some 1)
  | sequence first second =>
    let (least, most) := first.width groupWidth
    let (least', most') := second.width groupWidth
    (least + least', do return (← most) + (← most'))
  | choice first second =>
    let (least, most) := first.width groupWidth
    let (least', most') := second.width groupWidth
    (min least least', do return max (← most) (← most'))
  | repetition least most _ body =>
    let (narrow, wide) := body.width groupWidth
    (least * narrow, match wide, most with
      | some 0, _ => some 0
      | some wide, some most => some (most * wide)
      | _, some 0 => some 0
      | _, _ => none)
  | group _ body | atomic body => body.width groupWidth
  | reference number => groupWidth number

end Scanning.Pattern
