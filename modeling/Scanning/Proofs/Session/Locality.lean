import Scanning.Proofs.Session.Changes
import Scanning.Proofs.Session.Failure

namespace Scanning.Session

open Lexer (Scanner Config)
open Move (landing)

/-- What a command for a single cursor does. -/
inductive Act where
  | place (position : Int)
  | scan (name : String) (scanner : Scanner)

def Act.on (session : Session) (number : Nat) : Act → Session
  | place position => session.place number position
  | scan name scanner => session.scanning number name scanner

/-- What is done and replied depends only on the subject of the cursor and its position. -/
def ActsLocally (obeyed : Session → Nat → Session × Reply) : Prop :=
  ∃ act : Subject → Int → Act × Reply, ∀ {session : Session} {number : Nat},
    number < session.handles.size → obeyed session number =
      ((act (session.subjectOf number) (session.positionOf number)).1.on session number,
        (act (session.subjectOf number) (session.positionOf number)).2)

variable {τ α : Type}

/-- A reply alone acts locally. -/
theorem actsLocally_reply (outcome : Outcome) (tokens : Option (List Lexer.Token)) :
    ActsLocally fun session number => (session, session.reply number outcome none tokens) := by
  refine ⟨fun _ position => (.place position, .mk outcome (some position) none tokens none), ?_⟩
  intro session number _
  exact Prod.ext (place_positionOf session number).symm rfl

/-- How a move ends. -/
def endOf (outcome : α → Outcome) : EStateM.Result Fault (Standing τ) α → Outcome
  | .ok answer _ => outcome answer
  | .error fault _ => .fault fault

/-- Making a move and replying with how it ends acts locally. -/
theorem actsLocally_make (memory : τ) (move : Move Subject τ α) (outcome : Subject → α → Outcome)
    (seen : τ → Option (List Int)) :
    ActsLocally fun session number =>
      ((session.make number memory move (outcome (session.subjectOf number))).1,
        (session.make number memory move (outcome (session.subjectOf number))).1.reply number
          (session.make number memory move (outcome (session.subjectOf number))).2.2
          (seen (session.make number memory move (outcome (session.subjectOf number))).2.1)) := by
  refine ⟨fun subject position =>
    let result := move subject ⟨position, memory⟩
    (.place (landing result).position, .mk (endOf (outcome subject) result)
      (some (landing result).position) (seen (landing result).memory) none none), ?_⟩
  intro session number hnumber
  cases hmove : move (session.subjectOf number) ⟨session.positionOf number, memory⟩ with
  | ok answer standing =>
    simp only [make_of_ok hmove, hmove, reply, positionOf_place hnumber, Act.on, landing, endOf]
  | error fault standing =>
    simp only [make_of_error hmove, hmove, reply, positionOf_place hnumber, Act.on, landing, endOf]

/-- Only an inspection tells what it has seen. -/
theorem actsLocally_operate (operation : Operation Subject Memory Value) :
    ActsLocally fun session number => session.operate number operation := by
  have hmake := actsLocally_make {} operation.move fun subject answer =>
    .value (valueOf subject answer)
  cases operation with
  | advanceInspecting test => exact hmake fun memory => some memory.seen
  | _ => exact hmake fun _ => none

/-- An operation that is given elements acts locally, whether these can be read or not. -/
theorem actsLocally_operateWith (elements : Subject)
    (operation : List Value → Operation Subject Memory Value) :
    ActsLocally fun session number => session.operateWith number elements operation := by
  unfold operateWith
  cases elements.elements with
  | ok values => exact actsLocally_operate (operation values)
  | error fault => exact actsLocally_reply (.fault fault) none

theorem actsLocally_useMatch (use : MatchUse) (engine : Engine) :
    ActsLocally fun session number => session.useMatch number use engine := by
  cases use with
  | advance =>
    exact actsLocally_make () (advanceMatching engine) (fun _ => .value ∘ .bool) fun _ => none
  | ask =>
    exact actsLocally_make () (hasPrefixMatch engine) (fun _ => .value ∘ .bool) fun _ => none
  | read => exact actsLocally_make () (readMatch engine) (fun _ => .found) fun _ => none

theorem actsLocally_place (position : Int) :
    ActsLocally fun session number =>
      (session.place number position,
        (session.place number position).reply number (.value .none)) := by
  refine ⟨fun _ _ => (.place position, .mk (.value .none) (some position) none none none), ?_⟩
  intro session number hnumber
  simp only [reply, positionOf_place hnumber, Act.on]

theorem actsLocally_scan (name : String) (fields : List (String × Record.Raw)) :
    ActsLocally fun session number => session.scan number name fields := by
  unfold scan
  cases Config.ofFields fields with
  | error faults => exact actsLocally_reply (.fault (.invalidFields faults)) none
  | ok config =>
    exact ⟨fun _ position =>
      (.scan name { config }, .mk (.value .none) (some position) none none none), fun _ => rfl⟩

theorem actsLocally_scanAll (fields : List (String × Record.Raw)) :
    ActsLocally fun session number => session.scanAll number fields := by
  unfold scanAll
  cases Config.ofFields fields with
  | error faults => exact actsLocally_reply (.fault (.invalidFields faults)) (some [])
  | ok config =>
    refine ⟨fun subject position =>
      match remainingTokens { config } subject ⟨position, ()⟩ with
      | (tokens, .ok () standing) => (.place standing.position,
          .mk (.value (.int tokens.length)) (some standing.position) none (some tokens) none)
      | (tokens, .error fault standing) => (.place standing.position,
          .mk (.fault fault) (some standing.position) none (some tokens) none), ?_⟩
    intro session number hnumber
    dsimp only
    generalize remainingTokens { config } (session.subjectOf number)
      ⟨session.positionOf number, ()⟩ = result
    obtain ⟨tokens, ending⟩ := result
    cases ending with
    | ok answer standing | error fault standing =>
      simp only [reply, positionOf_place hnumber, Act.on]

/-- Commands for a single cursor: all but those that make other cursors, change the subject or ask a
scanner. -/
def Command.IsLocal : Command → Prop
  | .copy _ | .append _ | .truncate _ | .block _ _ _ | .next _ => False
  | _ => True

/-- What a command for a single cursor does, and the reply, depend on the subject of the cursor and
on its position alone. -/
theorem exists_act {command : Command} (h : command.IsLocal) :
    ∃ act : Subject → Int → Act × Reply, ∀ {session : Session} {number : Nat},
      number < session.handles.size → session.obey number command =
        ((act (session.subjectOf number) (session.positionOf number)).1.on session number,
          (act (session.subjectOf number) (session.positionOf number)).2) := by
  change ActsLocally fun session number => session.obey number command
  cases command with
  | copy | append | truncate | block | next => cases h
  | isAtEnd | remainder | consumedSince | advance | advanceBy | advanceWhile | advanceInspecting
  | peek | peek2 | peek3 | hasPrefix | pop | popElement | popWhere | read | readWhile =>
    simp only [obey]
    exact actsLocally_operate _
  | startsWith elements | readPrefix elements =>
    simp only [obey]
    exact actsLocally_operateWith elements _
  | describe =>
    simp only [obey]
    exact actsLocally_make () Session.describe (fun _ => .value ∘ .text) fun _ => none
  | matching use engine =>
    simp only [obey]
    exact actsLocally_useMatch use engine
  | setPosition position =>
    simp only [obey]
    exact actsLocally_place position
  | scan name fields =>
    simp only [obey]
    exact actsLocally_scan name fields
  | scanAll fields =>
    simp only [obey]
    exact actsLocally_scanAll fields

end Scanning.Session
