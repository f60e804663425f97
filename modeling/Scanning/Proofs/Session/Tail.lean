import Scanning.Proofs.Session.Bounds
import Scanning.Proofs.Session.Calls
import Scanning.Proofs.Session.Failure
import Scanning.Proofs.Tail.Lexer
import Scanning.Proofs.Tail.Subject

namespace Scanning

open Lexer (Token Scanner Config)

/-- The units that a pattern is matched with are those of the tail. -/
theorem Subject.units_cut {subject : Subject} {start : Nat} {index index' : Int}
    (hstart : start ≤ subject.size) (h : Behind start index index') :
    (subject.cut start).units index' = subject.units index := by
  have hend := (tail_cut hstart).behind_end
  cases subject with
  | text s | bytes s =>
    have hslice := sliceBetween_extract s.elements h hend
    exact congrArg (fun elements => Except.ok (_, (List.map _ elements).toArray)) hslice
  | items s | scalars view => rfl

namespace Session

open Move (landing)

/-- A session over the tails of its subjects. -/
def cut (start : Nat) (session : Session) : Session :=
  { session with
    subjects := session.subjects.map (Subject.cut start)
    handles := session.handles.map fun handle =>
      { handle with position := handle.position - start } }

/-- No cursor stands in front of an index. -/
def Ahead (start : Nat) (session : Session) : Prop :=
  ∀ handle ∈ session.handles, start ≤ handle.position

mutual

/-- The command for a session over tails: indices are counted from the start of the tail, and views
are tails too. -/
def Command.lowered (start : Nat) : Command → Command
  | .consumedSince first => .consumedSince (first - start)
  | .block view ending body => .block (view.map (Subject.cut start)) ending (body.lowered start)
  | command => command

def Script.lowered (start : Nat) : Script → Script
  | .done => .done
  | .step on command rest => .step on (command.lowered start) (rest.lowered start)

end

mutual

/-- Commands that do not tell what is in front of an index: they look back there at most, show no
position to tests, and work on views that they are given. A list cannot be viewed as UTF-8 without
reading what was consumed of it. -/
def Command.CountsFrom (start : Nat) : Command → Prop
  | .consumedSince first => start ≤ first
  | .advanceInspecting _ | .describe => False
  | .block view _ body => view.isSome ∧ body.CountsFrom start
  | _ => True

def Script.CountsFrom (start : Nat) : Script → Prop
  | .done => True
  | .step _ command rest => command.CountsFrom start ∧ rest.CountsFrom start

end

/-- The same outcome, up to a relation of failures; tokens are counted from `start`. -/
inductive SameOutcome (faults : Fault → Fault → Prop) (start : Nat) : Outcome → Outcome → Prop where
  | value (value : Value) : SameOutcome faults start (.value value) (.value value)
  | found (found : Option Found) : SameOutcome faults start (.found found) (.found found)
  | token {given given' : Option Token} (h : Lexer.IsGiven start given given') :
      SameOutcome faults start (.token given) (.token given')
  | fault {fault fault' : Fault} (h : faults fault fault') :
      SameOutcome faults start (.fault fault) (.fault fault')

/-- The failures of a command are of one kind; what the lexer complains about is the same. -/
def Command.SameFault (start : Nat) : Command → Fault → Fault → Prop
  | .next _ | .scanAll _ => Lexer.IsLowered start
  | _ => Fault.Alike

mutual

/-- The same reply to a command, with positions that are counted from `start`. What a body makes of
its replies is up to it. -/
inductive SameReply (start : Nat) : Command → Reply → Reply → Prop where
  | plain {command : Command} {outcome outcome' : Outcome} {position position' : Int}
      (h : SameOutcome (command.SameFault start) start outcome outcome')
      (hposition : Behind start position position') (tokens : Option (List Token)) :
      SameReply start command (.mk outcome (some position) none tokens none)
        (.mk outcome' (some position') none (tokens.map (·.map (Token.lowered start))) none)
  | block {view : Option Subject} {ending : Ending} {body : Script}
      {position position' outside outside' : Int} {replies replies' : List Reply}
      (h : SameReplies start body replies replies') (hposition : Behind start position position')
      (houtside : Behind start outside outside') :
      SameReply start (.block view ending body)
        (.mk (ending replies) (some position) none none (some (replies, outside)))
        (.mk (ending replies') (some position') none none (some (replies', outside')))
  | unknownName (command : Command) : SameReply start command unknownName unknownName

/-- The same replies to the commands of a script, one by one. -/
inductive SameReplies (start : Nat) : Script → List Reply → List Reply → Prop where
  | done : SameReplies start .done [] []
  | step {on : Option String} {command : Command} {rest : Script} {reply reply' : Reply}
      {replies replies' : List Reply} (hfirst : SameReply start command reply reply')
      (hrest : SameReplies start rest replies replies') :
      SameReplies start (.step on command rest) (reply :: replies) (reply' :: replies')

end

/-- What a command leads to over tails. -/
def Follows (start : Nat) (command : Command) (result result' : Session × Reply) : Prop :=
  result'.1 = result.1.cut start ∧ SameReply start command result.2 result'.2

variable {session : Session} {start size number : Nat}

/-- Over tails a cursor works on the same subject, at a position that is counted from the start of
the tail. -/
theorem handle_cut (hnumber : number < session.handles.size) :
    (session.cut start).handle number =
      { session.handle number with position := session.positionOf number - start } := by
  simp [handle, cut, positionOf, hnumber]

theorem positionOf_cut (hnumber : number < session.handles.size) :
    (session.cut start).positionOf number = session.positionOf number - start := by
  rw [positionOf, handle_cut hnumber]

theorem subjectOf_cut (hcursor : session.HasCursor number) :
    (session.cut start).subjectOf number = (session.subjectOf number).cut start := by
  obtain ⟨hnumber, hsubject⟩ := hcursor
  rw [subjectOf, handle_cut hnumber]
  simp [cut, subjectOf, hsubject]

theorem place_cut (hnumber : number < session.handles.size) (position : Int) :
    (session.cut start).place number (position - start) =
      (session.place number position).cut start := by
  rw [place, handle_cut hnumber]
  simp [place, cut, Array.map_setIfInBounds]

/-- If no cursor stands in front of an index, then none of those that there are does. -/
theorem Ahead.positionOf (h : session.Ahead start) (hnumber : number < session.handles.size) :
    start ≤ session.positionOf number := by
  have hmem : session.handle number ∈ session.handles := by
    rw [handle, Array.getElem?_eq_getElem hnumber]
    exact Array.getElem_mem hnumber
  exact h _ hmem

/-- A reply where the cursor stands. -/
theorem sameReply_reply {command : Command} {outcome outcome' : Outcome}
    (h : SameOutcome (command.SameFault start) start outcome outcome')
    (hahead : session.Ahead start) (hnumber : number < session.handles.size) (tokens : Option (List Token)) :
    SameReply start command (session.reply number outcome none tokens)
      ((session.cut start).reply number outcome' none
        (tokens.map (·.map (Token.lowered start)))) := by
  rw [reply, reply, positionOf_cut hnumber]
  exact .plain h (behind_sub (hahead.positionOf hnumber)) tokens

/-- A cursor goes elsewhere, and then the reply tells where a cursor stands. -/
theorem follows_place (command : Command) {target : Nat} (htarget : target < session.handles.size)
    (hnumber : number < session.handles.size) {outcome outcome' : Outcome}
    (houtcome : SameOutcome (command.SameFault start) start outcome outcome')
    {position position' : Int} (hposition : Behind start position position')
    (hafter : (session.place target position).Ahead start)
    (tokens : Option (List Token)) :
    let after := session.place target position
    let after' := (session.cut start).place target position'
    Follows start command (after, after.reply number outcome none tokens)
      (after', after'.reply number outcome' none (tokens.map (·.map (Token.lowered start)))) := by
  obtain rfl := hposition.eq_sub
  rw [place_cut htarget]
  refine ⟨rfl, sameReply_reply houtcome hafter ?_ tokens⟩
  rwa [size_handles_place]

/-- A session in which all cursors are behind the start of the tails, and scanners work on cursors
that there are. -/
structure Tailed (start size : Nat) (session : Session) : Prop where
  start_le : start ≤ size
  confined : session.Confined size
  sound : session.Sound
  ahead : session.Ahead start

namespace Tailed

variable (h : session.Tailed start size)

include h

theorem start_le_size (number : Nat) : start ≤ (session.subjectOf number).size := by
  rw [h.confined.size_subjectOf]
  exact h.start_le

theorem tail (number : Nat) :
    Tail (session.subjectOf number) ((session.subjectOf number).cut start) start :=
  Subject.tail_cut (h.start_le_size number)

theorem behind (hnumber : number < session.handles.size) :
    Behind start (session.positionOf number) (session.positionOf number - start) :=
  behind_sub (h.ahead.positionOf hnumber)

theorem subjectOf_cut (hnumber : number < session.handles.size) :
    (session.cut start).subjectOf number = (session.subjectOf number).cut start :=
  Session.subjectOf_cut (h.sound.subjects hnumber)

end Tailed

section Moves

variable {τ α β : Type} (h : session.Tailed start size) (hnumber : number < session.handles.size)
  (command : Command)

/-- Whatever a move answers, the cursor is placed where it lands. -/
theorem make_fst (session : Session) (number : Nat) (memory : τ) (move : Move Subject τ α)
    (outcome : α → Outcome) :
    (session.make number memory move outcome).1 = session.place number
      (landing (move (session.subjectOf number) ⟨session.positionOf number, memory⟩)).position := by
  rw [make]
  cases move (session.subjectOf number) ⟨session.positionOf number, memory⟩ with
  | ok | error => rfl

include h hnumber

/-- A move, and the reply that tells its outcome. -/
theorem follows_make {same : α → β → Prop} {memory : τ} {move : Move Subject τ α}
    {move' : Move Subject τ β} {outcome : α → Outcome} {outcome' : β → Outcome}
    (hparallel : Parallel (command.SameFault start) same start
      (move (session.subjectOf number) ⟨session.positionOf number, memory⟩)
      (move' ((session.subjectOf number).cut start) ⟨session.positionOf number - start, memory⟩))
    (houtcome : ∀ {a b}, same a b →
      SameOutcome (command.SameFault start) start (outcome a) (outcome' b))
    (hafter : (session.make number memory move outcome).1.Ahead start) :
    let made := session.make number memory move outcome
    let made' := (session.cut start).make number memory move' outcome'
    Follows start command (made.1, made.1.reply number made.2.2)
      (made'.1, made'.1.reply number made'.2.2) := by
  rw [make_fst] at hafter
  rw [make, make, h.subjectOf_cut hnumber, positionOf_cut hnumber]
  generalize move (session.subjectOf number) ⟨session.positionOf number, memory⟩ = made,
    move' ((session.subjectOf number).cut start) ⟨session.positionOf number - start, memory⟩ = made'
    at hparallel hafter
  cases hparallel with
  | ok hsame hposition memory =>
    exact follows_place command hnumber hnumber (houtcome hsame) hposition hafter none
  | error hfault hposition memory =>
    exact follows_place command hnumber hnumber (.fault hfault) hposition hafter none

omit h hnumber in
/-- An answer has the same value over a tail, because a value is made of elements and tells no
position. -/
theorem valueOf_cut (subject : Subject) (start : Nat) (answer : Answer Value) :
    valueOf (subject.cut start) answer = valueOf subject answer := by
  rcases answer with _ | _ | _ | (_ | _) | (_ | _) | (_ | elements)
  case piece.some => exact subject.assemble_cut start elements
  all_goals rfl

omit h hnumber in
/-- An operation that tells no positions to a test. -/
theorem operate_eq {operation : Operation Subject Memory Value}
    (hcounts : operation.CountsFrom start) (session : Session) (number : Nat) :
    session.operate number operation =
      (let made := session.make number {} operation.move fun answer =>
        .value (valueOf (session.subjectOf number) answer)
      (made.1, made.1.reply number made.2.2)) := by
  cases operation with
  | advanceInspecting => cases hcounts
  | _ => rfl

/-- An operation that does not tell what is in front of the tail leads to the same over tails. -/
theorem follows_operate {operation : Operation Subject Memory Value}
    (hcounts : operation.CountsFrom start)
    (hfaults : command.SameFault start = Fault.Alike)
    (hafter : (session.operate number operation).1.Ahead start) :
    Follows start command (session.operate number operation)
      ((session.cut start).operate number (operation.lowered start)) := by
  rw [operate_eq hcounts] at hafter ⊢
  rw [operate_eq (operation.countsFrom_lowered hcounts)]
  have hend : session.positionOf number ≤ IndexSpace.endIndex (session.subjectOf number) :=
    (h.confined.within number).2
  -- Only a move back by a number of elements could go too far, and it is known where that lands.
  have hlands : start ≤ (landing (operation.move (session.subjectOf number)
      ⟨session.positionOf number, {}⟩)).position := by
    have hahead := hafter
    rw [make_fst] at hahead
    have hlands := hahead.positionOf ((size_handles_place ..).symm ▸ hnumber)
    rwa [positionOf_place hnumber] at hlands
  have hparallel : Parallel (command.SameFault start) Eq start _ _ :=
    hfaults ▸ operation.parallel (h.tail number) hcounts (h.behind hnumber) hend hlands
  refine follows_make h hnumber command hparallel ?_ hafter
  rintro answer _ rfl
  rw [h.subjectOf_cut hnumber, valueOf_cut]
  exact .value _

/-- An operation that is given elements leads to the same over tails, for whichever elements it is
given. -/
theorem follows_operateWith (elements : Subject)
    {operation : List Value → Operation Subject Memory Value}
    (hcounts : ∀ elements, (operation elements).CountsFrom start)
    (hlowered : ∀ elements, (operation elements).lowered start = operation elements)
    (hfaults : command.SameFault start = Fault.Alike)
    (hafter : (session.operateWith number elements operation).1.Ahead start) :
    Follows start command (session.operateWith number elements operation)
      ((session.cut start).operateWith number elements operation) := by
  unfold operateWith at hafter ⊢
  cases helements : elements.elements with
  | error fault =>
    refine ⟨rfl, sameReply_reply (.fault ?_) h.ahead hnumber none⟩
    rw [hfaults]
    exact .refl fault
  | ok elements =>
    rw [helements] at hafter
    have hfollows := follows_operate h hnumber command (hcounts elements) hfaults hafter
    rwa [hlowered] at hfollows

end Moves

/-- A cursor that stands in its subject can be copied. -/
theorem duplicate_of_within
    (h : Within (session.subjectOf number) (session.positionOf number)) (name : String) :
    session.duplicate number name =
      (session.copying number name, (session.copying number name).reply number (.value .none)) := by
  have hcopy : Cursor.at? (session.subjectOf number) (session.positionOf number) = .ok _ := if_pos h
  rw [duplicate, Cursor.copy, hcopy]
  rfl

/-- An engine finds the same match over a tail, because it is given the text from the index on and
nothing in front. -/
theorem matchAt_cut (engine : Engine) {subject : Subject} {index index' : Int}
    (hstart : start ≤ subject.size) (hindex : Behind start index index') :
    matchAt engine (subject.cut start) index' = matchAt engine subject index := by
  rw [matchAt, matchAt, Subject.units_cut hstart hindex]

section Matches

variable {τ : Type} (engine : Engine) {subject : Subject} (hstart : start ≤ subject.size)

include hstart

theorem inParallel_readMatch :
    InParallel Fault.Alike Eq subject (subject.cut start) start
      (readMatch engine : Move Subject τ _) (readMatch engine) := by
  intro position position' memory hposition
  rw [readMatch, Move.consume, Move.consume]
  dsimp only
  rw [matchAt_cut engine hstart hposition]
  cases matchAt engine subject position with
  | error fault => exact .error (.refl fault) hposition memory
  | ok found =>
    cases found with
    | none => exact .ok rfl hposition memory
    | some found =>
      obtain ⟨hpos, hindex⟩ := hposition
      exact .ok rfl ⟨by omega, by omega⟩ memory

theorem inParallel_hasPrefixMatch :
    InParallel Fault.Alike Eq subject (subject.cut start) start
      (hasPrefixMatch engine : Move Subject τ _) (hasPrefixMatch engine) := by
  intro position position' memory hposition
  rw [hasPrefixMatch, Move.look, Move.look]
  dsimp only
  rw [matchAt_cut engine hstart hposition]
  cases matchAt engine subject position with
  | error fault => exact .error (.refl fault) hposition memory
  | ok found => exact .ok rfl hposition memory

end Matches

section Commands

variable (h : session.Tailed start size) (hnumber : number < session.handles.size)

include h hnumber

/-- A use of a pattern leads to the same over tails. -/
theorem follows_useMatch (use : MatchUse) (engine : Engine)
    (hafter : (session.useMatch number use engine).1.Ahead start) :
    Follows start (.matching use engine) (session.useMatch number use engine)
      ((session.cut start).useMatch number use engine) := by
  have hstart := h.start_le_size number
  have hposition := h.behind hnumber
  cases use with
  | advance =>
    have hadvance : InParallel Fault.Alike Eq _ _ start
        (advanceMatching engine : Move Subject Unit _) (advanceMatching engine) :=
      (inParallel_readMatch engine hstart).map (congrArg Option.isSome ·)
    refine follows_make h hnumber _ (hadvance () hposition) ?_ hafter
    rintro answer _ rfl
    exact .value _
  | ask =>
    refine follows_make h hnumber _ (inParallel_hasPrefixMatch engine hstart () hposition) ?_ hafter
    rintro answer _ rfl
    exact .value _
  | read =>
    refine follows_make h hnumber _ (inParallel_readMatch engine hstart () hposition) ?_ hafter
    rintro found _ rfl
    exact .found found

/-- Where a cursor stands there is a place in anything that ends where its subject ends, and in the
tail of it. -/
theorem within_cut {subject : Subject} (hsize : subject.size = size) :
    Within subject (session.positionOf number) ∧
      Within (subject.cut start) ((session.cut start).positionOf number) := by
  obtain ⟨-, hfirst, hend⟩ := h.confined.handle number
  rw [← hsize] at hend
  have hahead := h.ahead.positionOf hnumber
  have hstart := h.start_le
  have hcut := subject.size_cut start
  rw [positionOf_cut hnumber]
  refine ⟨⟨hfirst, hend⟩, by omega, ?_⟩
  change _ ≤ ((subject.cut start).size : Int)
  omega

omit h in
theorem copying_cut (name : String) :
    (session.cut start).copying number name = (session.copying number name).cut start := by
  rw [copying, handle_cut hnumber]
  simp [copying, cut, Array.map_push, positionOf]

theorem follows_duplicate (name : String)
    (hafter : (session.duplicate number name).1.Ahead start) :
    Follows start (.copy name) (session.duplicate number name)
      ((session.cut start).duplicate number name) := by
  obtain ⟨hwithin, hwithin'⟩ := within_cut h hnumber (h.confined.size_subjectOf number)
  rw [← h.subjectOf_cut hnumber] at hwithin'
  rw [duplicate_of_within hwithin] at hafter ⊢
  rw [duplicate_of_within hwithin', copying_cut hnumber]
  exact ⟨rfl, sameReply_reply (.value _) hafter (lt_size_push hnumber _) none⟩

theorem follows_scan (name : String) (fields : List (String × Record.Raw)) :
    Follows start (.scan name fields) (session.scan number name fields)
      ((session.cut start).scan number name fields) := by
  unfold scan
  cases Config.ofFields fields with
  | error faults =>
    refine ⟨rfl, sameReply_reply (.fault ?_) h.ahead hnumber none⟩
    exact Fault.Alike.refl _
  | ok config =>
    have hahead : (session.scanning number name { config }).Ahead start := h.ahead
    exact ⟨rfl, sameReply_reply (.value _) hahead hnumber none⟩

end Commands

section Scanners

variable {subject : Subject} (hstart : start ≤ subject.size) (scanner : Scanner)
  {position position' : Int} (hposition : Behind start position position')

include hstart hposition

/-- A scanner gives the same token over a tail, counted from the start of the tail, and comes to the
same state. -/
theorem parallel_nextToken :
    (nextToken scanner (subject.cut start) ⟨position', ()⟩).1 =
        (nextToken scanner subject ⟨position, ()⟩).1 ∧
      Parallel (Lexer.IsLowered start) (Lexer.IsGiven start) start
        (nextToken scanner subject ⟨position, ()⟩).2
        (nextToken scanner (subject.cut start) ⟨position', ()⟩).2 := by
  cases subject with
  | text characters =>
    exact Lexer.parallel_next (characters.tail_cut hstart) scanner hposition ()
  | scalars view => exact Lexer.parallel_next (view.tail_cut hstart) scanner hposition ()
  | bytes | items => exact ⟨rfl, .error (.of_similar ⟨.refl _, id⟩) hposition ()⟩

/-- The tokens that a scanner has left are the same over a tail, counted from the start of the
tail. -/
theorem parallel_remainingTokens :
    (remainingTokens scanner (subject.cut start) ⟨position', ()⟩).1 =
        (remainingTokens scanner subject ⟨position, ()⟩).1.map (Token.lowered start) ∧
      Parallel (Lexer.IsLowered start) Eq start
        (remainingTokens scanner subject ⟨position, ()⟩).2
        (remainingTokens scanner (subject.cut start) ⟨position', ()⟩).2 := by
  cases subject with
  | text characters =>
    exact Lexer.parallel_drain (characters.tail_cut hstart) scanner hposition ()
  | scalars view => exact Lexer.parallel_drain (view.tail_cut hstart) scanner hposition ()
  | bytes | items => exact ⟨rfl, .error (.of_similar ⟨.refl _, id⟩) hposition ()⟩

end Scanners

section Scans

variable (h : session.Tailed start size) (hnumber : number < session.handles.size)

include h hnumber

/-- Asking a scanner for its next token leads to the same over tails. -/
theorem follows_step (name : String) (hafter : (session.step number name).1.Ahead start) :
    Follows start (.next name) (session.step number name)
      ((session.cut start).step number name) := by
  cases hlookup : session.scanners.lookup name with
  | none =>
    have hstep (other : Session) (hscanners : other.scanners = session.scanners) :
        other.step number name = (other, unknownName) := by
      rw [step, hscanners, hlookup]
    rw [hstep _ rfl, hstep (session.cut start) rfl]
    exact ⟨rfl, .unknownName _⟩
  | some found =>
    obtain ⟨target, scanner⟩ := found
    have htarget := h.sound.scanners hlookup
    have hlookup' : (session.cut start).scanners.lookup name = some (target, scanner) := hlookup
    rw [step_eq hlookup] at hafter ⊢
    rw [step_eq hlookup', h.subjectOf_cut htarget, positionOf_cut htarget]
    obtain ⟨hscanner, hparallel⟩ :=
      parallel_nextToken (h.start_le_size target) scanner (h.behind htarget)
    dsimp only at hafter ⊢
    rw [hscanner]
    generalize nextToken scanner (session.subjectOf target) ⟨session.positionOf target, ()⟩ = next,
      nextToken scanner ((session.subjectOf target).cut start)
        ⟨session.positionOf target - start, ()⟩ = next' at hafter hparallel ⊢
    obtain ⟨scanner', result⟩ := next
    obtain ⟨_, result'⟩ := next'
    dsimp only at hafter hparallel ⊢
    have hscanned : target < (session.scanning target name scanner').handles.size := htarget
    cases hparallel with
    | ok hgiven hstop =>
      exact follows_place (.next name) hscanned hnumber (.token hgiven) hstop hafter none
    | error hfault hstop =>
      exact follows_place (.next name) hscanned hnumber (.fault hfault) hstop hafter none

/-- Asking for all tokens leads to the same over tails. -/
theorem follows_scanAll (fields : List (String × Record.Raw))
    (hafter : (session.scanAll number fields).1.Ahead start) :
    Follows start (.scanAll fields) (session.scanAll number fields)
      ((session.cut start).scanAll number fields) := by
  unfold scanAll at hafter ⊢
  cases hconfig : Config.ofFields fields with
  | error faults =>
    refine ⟨rfl, sameReply_reply (.fault ?_) h.ahead hnumber (some [])⟩
    exact .of_similar ⟨.refl _, id⟩
  | ok config =>
    rw [hconfig] at hafter
    dsimp only at hafter ⊢
    rw [h.subjectOf_cut hnumber, positionOf_cut hnumber]
    obtain ⟨htokens, hparallel⟩ :=
      parallel_remainingTokens (h.start_le_size number) { config } (h.behind hnumber)
    generalize remainingTokens { config } (session.subjectOf number)
        ⟨session.positionOf number, ()⟩ = rest,
      remainingTokens { config } ((session.subjectOf number).cut start)
        ⟨session.positionOf number - start, ()⟩ = rest' at hafter htokens hparallel ⊢
    obtain ⟨tokens, result⟩ := rest
    obtain ⟨tokens', result'⟩ := rest'
    dsimp only at hafter htokens hparallel ⊢
    subst htokens
    cases hparallel with
    | ok hsame hstop =>
      rw [List.length_map]
      exact follows_place (.scanAll fields) hnumber hnumber (.value _) hstop hafter (some tokens)
    | error hfault hstop =>
      exact follows_place (.scanAll fields) hnumber hnumber (.fault hfault) hstop hafter (some tokens)

end Scans

/-- A view can be opened at any index that it has. -/
theorem openView_of_within {view : Subject}
    (h : Within view (session.positionOf number)) :
    session.openView number (some view) = .ok (session.viewing view (session.positionOf number)) := by
  have hcursor : Cursor.at? view (session.positionOf number) = .ok _ := if_pos h
  rw [openView_eq]
  change (Cursor.at? view (session.positionOf number) >>= _) = _
  rw [hcursor]
  rfl

theorem viewing_cut (session : Session) (view : Subject) (position : Int) :
    (session.cut start).viewing (view.cut start) (position - start) =
      ((session.viewing view position).1.cut start, (session.viewing view position).2) := by
  simp [viewing, cut, Array.map_push]

section Blocks

variable (h : session.Tailed start size) (hnumber : number < session.handles.size)

include h hnumber

/-- Over a view that ends where all subjects end, and over its tail, a block is opened alike. -/
theorem openView_cut {view : Subject} (hview : view.size = size) :
    ∃ opened, session.openView number (some view) = .ok (opened, session.handles.size) ∧
      (session.cut start).openView number (some (view.cut start)) =
        .ok (opened.cut start, session.handles.size) := by
  obtain ⟨hwithin, hwithin'⟩ := within_cut h hnumber hview
  refine ⟨_, openView_of_within hwithin, ?_⟩
  rw [openView_of_within hwithin', positionOf_cut hnumber, viewing_cut]
  rfl

end Blocks

/-- Closing a block leads to the same over tails, when the replies in the block have been the
same. -/
theorem follows_closeView {ended : Session} {inner : Nat} (hnumber : number < ended.handles.size)
    (hinner : inner < ended.handles.size) (hended : ended.Ahead start) {view : Option Subject}
    {ending : Ending} {body : Script} {replies replies' : List Reply}
    (hreplies : SameReplies start body replies replies') :
    Follows start (.block view ending body) (ended.closeView number inner ending replies)
      ((ended.cut start).closeView number inner ending replies') := by
  rw [closeView, closeView, positionOf_cut hnumber, positionOf_cut hinner, place_cut hnumber]
  refine ⟨rfl, ?_⟩
  have hplaced : number < (ended.place number (ended.positionOf inner)).handles.size := by
    rwa [size_handles_place]
  rw [reply, reply, positionOf_cut hplaced, positionOf_place hnumber]
  exact .block hreplies (behind_sub (hended.positionOf hinner))
    (behind_sub (hended.positionOf hnumber))

end Session

end Scanning
