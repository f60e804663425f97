import Scanning.Pattern.Match

namespace Scanning.Pattern

variable {ground : Ground}

/-- A matcher that succeeds, from a place in the text, only because what follows does at a place in
the text. -/
def Matcher.KeepsWithin (ground : Ground) (matcher : Matcher) : Prop :=
  ∀ ⦃spot : Spot⦄ ⦃next : Spot → Option Spot⦄ ⦃found : Spot⦄, spot.place ≤ ground.units.size →
    matcher spot next = some found →
    ∃ spot' : Spot, spot'.place ≤ ground.units.size ∧ next spot' = some found

theorem keepsWithin_takeUnit (passes : Nat → Bool) :
    (takeUnit ground passes).KeepsWithin ground := by
  intro spot next found hspot h
  unfold takeUnit at h
  split at h
  case h_1 unit hunit =>
    obtain ⟨hplace, -⟩ := Array.getElem?_eq_some_iff.1 hunit
    split at h
    · refine ⟨_, ?_, h⟩
      exact hplace
    · cases h
  case h_2 => cases h

/-- A number of rounds stays in the text if each round does. -/
theorem keepsWithin_rounds {body : Matcher} (hbody : body.KeepsWithin ground) (count : Nat) :
    (rounds body count).KeepsWithin ground := by
  induction count with
  | zero =>
    intro spot next found hspot h
    exact ⟨spot, hspot, h⟩
  | succ count ih =>
    intro spot next found hspot h
    obtain ⟨middle, hmiddle, h⟩ := hbody hspot h
    exact ih hmiddle h

/-- Any number of further rounds, in either order of preference, stays in the text if each does. -/
theorem keepsWithin_moreRounds {body : Matcher} (hbody : body.KeepsWithin ground) (isLazy : Bool)
    (counter : Nat) (most last : Option Nat) :
    (moreRounds body isLazy counter most last).KeepsWithin ground := by
  induction counter generalizing most last with
  | zero =>
    intro spot next found hspot h
    exact ⟨spot, hspot, h⟩
  | succ counter ih =>
    intro spot next found hspot h
    have hagain : (if most = some 0 || last = some spot.place then none
        else body spot fun spot' => moreRounds body isLazy counter (most.map (· - 1))
          (some spot.place) spot' next) = some found →
        ∃ spot' : Spot, spot'.place ≤ ground.units.size ∧ next spot' = some found := by
      intro hagain
      split at hagain
      · cases hagain
      · obtain ⟨middle, hmiddle, hrest⟩ := hbody hspot hagain
        exact ih _ _ hmiddle hrest
    unfold moreRounds at h
    dsimp only at h
    split at h
    · split at h
      · cases h
        exact ⟨spot, hspot, ‹_›⟩
      · exact hagain h
    · split at h
      · cases h
        exact hagain ‹_›
      · exact ⟨spot, hspot, h⟩

/-- A repetition stays in the text if its body does. -/
theorem keepsWithin_repeated {body : Matcher} (hbody : body.KeepsWithin ground) (least : Nat)
    (most : Option Nat) (isLazy : Bool) :
    (repeated ground body least most isLazy).KeepsWithin ground := by
  intro spot next found hspot h
  obtain ⟨middle, hmiddle, h⟩ := keepsWithin_rounds hbody least hspot h
  exact keepsWithin_moreRounds hbody _ _ _ _ hmiddle h

/-- A matcher that gives up its other ways goes on from places in the text if it did before. -/
theorem keepsWithin_onlyFirst {matcher : Matcher} (hmatcher : matcher.KeepsWithin ground) :
    (onlyFirst matcher).KeepsWithin ground := by
  intro spot next found hspot h
  unfold onlyFirst at h
  split at h
  case h_1 first hfirst =>
    obtain ⟨_, hplace, hsome⟩ := hmatcher hspot hfirst
    cases hsome
    exact ⟨first, hplace, h⟩
  case h_2 => cases h

/-- Units that are repeated are there. -/
theorem Ground.le_of_repeats {start stop here : Nat} (hhere : here ≤ ground.units.size)
    (h : ground.repeats start stop here = true) : here + (stop - start) ≤ ground.units.size := by
  cases hwidth : stop - start with
  | zero => exact hhere
  | succ last =>
    have hlast := List.all_eq_true.1 h last (by simp [hwidth])
    split at hlast
    case h_1 hunit =>
      obtain ⟨hplace, -⟩ := Array.getElem?_eq_some_iff.1 hunit
      exact hplace
    case h_2 => cases hlast

/-- Whatever is seen ahead or behind, a match goes on from the place where it looked. -/
theorem exists_of_looking {negated : Bool} {seen : Option Spot} {spot found : Spot}
    {next : Spot → Option Spot} (hspot : spot.place ≤ ground.units.size)
    (h : (match seen with
      | some other => if negated then none else next { other with place := spot.place }
      | none => if negated then next spot else none) = some found) :
    ∃ spot' : Spot, spot'.place ≤ ground.units.size ∧ next spot' = some found := by
  split at h
  · split at h
    · cases h
    · refine ⟨_, ?_, h⟩
      exact hspot
  · split at h
    · exact ⟨spot, hspot, h⟩
    · cases h

/-- A matcher that begins between the units of a text goes on only from places that are between
units too. One case for each kind of pattern. -/
theorem Node.keepsWithin_matcher (node : Node) : (node.matcher ground).KeepsWithin ground := by
  induction node with
  | empty =>
    intro spot next found hspot h
    exact ⟨spot, hspot, h⟩
  | never =>
    intro spot next found hspot h
    cases h
  | unit | any | set => exact keepsWithin_takeUnit _
  | anchor condition =>
    intro spot next found hspot h
    simp only [matcher] at h
    split at h
    · exact ⟨spot, hspot, h⟩
    · cases h
  | sequence first second ihfirst ihsecond =>
    intro spot next found hspot h
    obtain ⟨middle, hmiddle, h⟩ := ihfirst hspot h
    exact ihsecond hmiddle h
  | choice first second ihfirst ihsecond =>
    intro spot next found hspot h
    simp only [matcher] at h
    split at h
    · cases h
      exact ihfirst hspot ‹_›
    · exact ihsecond hspot h
  | repetition least most greed body ih =>
    cases greed with
    | greedy => exact keepsWithin_repeated ih least most false
    | «lazy» => exact keepsWithin_repeated ih least most true
    | possessive => exact keepsWithin_onlyFirst (keepsWithin_repeated ih least most false)
  | group number body ih =>
    intro spot next found hspot h
    obtain ⟨inner, hinner, h⟩ := ih hspot h
    refine ⟨_, ?_, h⟩
    exact hinner
  | reference number =>
    intro spot next found hspot h
    simp only [matcher] at h
    split at h
    · split at h
      · exact ⟨_, ground.le_of_repeats hspot ‹_›, h⟩
      · cases h
    · cases h
  | ahead negated body =>
    intro spot next found hspot h
    exact exists_of_looking hspot h
  | behind negated width body =>
    intro spot next found hspot h
    exact exists_of_looking hspot h
  | atomic body ih => exact keepsWithin_onlyFirst ih

/-- A match ends at the last unit of the text or before. -/
theorem Regex.place_le_of_matchStart? {regex : Regex} {units : Array Nat} {spot : Spot}
    (h : regex.matchStart? units = some spot) : spot.place ≤ units.size := by
  obtain ⟨last, hlast, hsome⟩ := regex.node.keepsWithin_matcher (Nat.zero_le _) h
  cases hsome
  exact hlast

end Scanning.Pattern
