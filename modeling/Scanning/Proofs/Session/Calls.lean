import Scanning.Proofs.Lexer.Ending
import Scanning.Proofs.Session.Changes
import Scanning.Proofs.Session.Failure

namespace Scanning

/-- The token that was given, if one was. -/
def Session.Outcome.token? : Session.Outcome → Option Lexer.Token
  | .token given => given
  | _ => none

namespace Session

open Lexer (Scanner Token Config)
open Move (landing)

/-- A call for the next token of a scanner: the session in which it is made, and the cursor that is to
reply. -/
structure Call where
  session : Session
  number : Nat
  name : String

namespace Call

/-- What becomes of the session, and the reply. -/
def answer (call : Call) : Session × Reply := call.session.step call.number call.name

/-- How a call ended. -/
def outcome (call : Call) : Outcome := call.answer.2.outcome

end Call

/-- What happens to scanners: they are made, and are asked for tokens. -/
inductive Event where
  | made (name : String) (number : Nat) (config : Config)
  | asked (call : Call)

mutual

/-- What happens to scanners while a command is obeyed. -/
def eventsIn (session : Session) (number : Nat) : Command → List Event
  | .scan name fields =>
    match Config.ofFields fields with
    | .ok config => [.made name number config]
    | .error _ => []
  | .next name => [.asked ⟨session, number, name⟩]
  | .block view _ body =>
    match session.openView number view with
    | .ok (opened, inner) => opened.events inner body
    | .error _ => []
  | _ => []

/-- What happens to scanners while a script is obeyed, in order. -/
def events (session : Session) (number : Nat) : Script → List Event
  | .done => []
  | .step on command rest =>
    match session.target? number on with
    | some target =>
      session.eventsIn target command ++ (session.obey target command).1.events number rest
    | none => session.events number rest

end

/-- What is known of a scanner: its cursor, how it was made, and what it has answered since. -/
structure Past where
  number : Nat
  config : Config
  answers : List Outcome := []

namespace Past

/-- A scanner may give another token as long as it has given nothing else, and fewer than it may. -/
def IsLive (past : Past) : Prop :=
  (∀ answer ∈ past.answers, answer.token?.isSome) ∧
    ∀ most ∈ past.config.maxTokens, past.answers.length < most

/-- One answer more. -/
def add (past : Past) (answer : Outcome) : Past :=
  { past with answers := past.answers ++ [answer] }

/-- What an event adds to what is known of a scanner. -/
def record (name : String) (past? : Option Past) : Event → Option Past
  | .made other number config => if other = name then some { number, config } else past?
  | .asked call => if call.name = name then past?.map (·.add call.outcome) else past?

end Past

/-- What is known of a scanner after some events, if it was made by one of them. -/
def pastOf (name : String) (events : List Event) : Option Past :=
  events.foldl (Past.record name) none

/-- One event more adds to what was known before it. -/
theorem pastOf_concat (name : String) (events : List Event) (event : Event) :
    pastOf name (events ++ [event]) = Past.record name (pastOf name events) event := by
  rw [pastOf, List.foldl_append]
  rfl

/-- How a call ended. -/
def told : EStateM.Result Fault (Standing Unit) (Option Token) → Outcome
  | .ok token _ => .token token
  | .error fault _ => .fault fault

variable {session session' : Session} {number target : Nat} {name : String} {scanner : Scanner}

/-- A call of a scanner that there is. -/
theorem step_eq (h : session.scanners.lookup name = some (target, scanner)) (number : Nat) :
    session.step number name =
      (let next := nextToken scanner (session.subjectOf target) ⟨session.positionOf target, ()⟩
      let after := (session.scanning target name next.1).place target (landing next.2).position
      (after, after.reply number (told next.2))) := by
  unfold step
  rw [h]
  dsimp only
  generalize nextToken scanner (session.subjectOf target) ⟨session.positionOf target, ()⟩ = next
  obtain ⟨scanner', result⟩ := next
  cases result with
  | ok token standing | error fault standing => rfl

theorem step_of_next {scanner' : Scanner}
    {result : EStateM.Result Fault (Standing Unit) (Option Token)}
    (h : session.scanners.lookup name = some (target, scanner))
    (hnext : nextToken scanner (session.subjectOf target) ⟨session.positionOf target, ()⟩ =
      (scanner', result)) (number : Nat) :
    session.step number name =
      (let after := (session.scanning target name scanner').place target (landing result).position
      (after, after.reply number (told result))) := by
  rw [step_eq h, hnext]

/-- The next token that a configuration keeps, of a text or a view of UTF-8. -/
def keptToken (config : Config) (subject : Subject) (standing : Standing Unit) :
    EStateM.Result Fault (Standing Unit) (Option Token) :=
  match subject with
  | .text characters => Lexer.nextKept config characters standing
  | .scalars view => Lexer.nextKept config view standing
  | _ => .error .unsuitable standing

/-- A scanner that may give another token of a text or a view of UTF-8 is told what comes next. -/
theorem nextToken_of_live {subject : Subject} (hfixed : ¬ subject.IsMutable)
    (hlive : scanner.finished = false) (hunspent : scanner.isSpent = false)
    (standing : Standing Unit) :
    nextToken scanner subject standing =
      (scanner.told (keptToken scanner.config subject standing),
        keptToken scanner.config subject standing) := by
  cases subject with
  | text characters => exact Lexer.next_of_live hlive hunspent characters standing
  | scalars view => exact Lexer.next_of_live hlive hunspent view standing
  | bytes | items => exact absurd trivial hfixed

/-- A scanner that may give none answers nothing and moves nothing. -/
theorem nextToken_of_over {subject : Subject} (hfixed : ¬ subject.IsMutable)
    (hover : scanner.finished = true ∨ scanner.isSpent = true) (standing : Standing Unit) :
    nextToken scanner subject standing =
      ({ scanner with finished := true }, .ok none standing) := by
  cases subject with
  | text characters => exact Lexer.next_of_over hover characters standing
  | scalars view => exact Lexer.next_of_over hover view standing
  | bytes | items => exact absurd trivial hfixed

/-- A scanner that remembers its past: it is finished only if it may give no other token, and else it
knows how many it has given. -/
structure Reflects (scanner : Scanner) (past : Past) : Prop where
  config : scanner.config = past.config
  finished (h : scanner.finished = true) : ¬ past.IsLive
  given (h : scanner.finished = false) :
    (∀ answer ∈ past.answers, answer.token?.isSome) ∧ scanner.given = past.answers.length

namespace Reflects

variable {past : Past}

theorem new (number : Nat) (config : Config) : Reflects { config } { number, config } where
  config := rfl
  finished h := by cases h
  given _ := ⟨by simp, rfl⟩

/-- A scanner whose past allows another token may give one. -/
theorem live (h : Reflects scanner past) (hlive : past.IsLive) :
    scanner.finished = false ∧ scanner.isSpent = false := by
  have hopen : scanner.finished = false :=
    Bool.eq_false_iff.2 fun hfinished => h.finished hfinished hlive
  obtain ⟨-, hgiven⟩ := h.given hopen
  refine ⟨hopen, Lexer.isSpent_eq_false_iff.2 ?_⟩
  rw [h.config, hgiven]
  exact hlive.2

theorem isOver (h : Reflects scanner past) (hover : ¬ past.IsLive) :
    scanner.finished = true ∨ scanner.isSpent = true := by
  cases hfinished : scanner.finished with
  | true => exact .inl rfl
  | false =>
    obtain ⟨htokens, hgiven⟩ := h.given hfinished
    refine .inr (Bool.not_eq_false _ ▸ fun hunspent => hover ⟨htokens, ?_⟩)
    have hroom := Lexer.isSpent_eq_false_iff.1 hunspent
    rwa [h.config, hgiven] at hroom

/-- An answer is remembered. -/
theorem next (h : Reflects scanner past) {subject : Subject} (hfixed : ¬ subject.IsMutable)
    (standing : Standing Unit) :
    Reflects (nextToken scanner subject standing).1
      (past.add (told (nextToken scanner subject standing).2)) := by
  have hclosed (answer : Outcome) (hnone : answer.token? = none) : ¬ (past.add answer).IsLive := by
    rintro ⟨htokens, -⟩
    have hsome := htokens answer (List.mem_append_right _ List.mem_cons_self)
    rw [hnone] at hsome
    cases hsome
  by_cases hlive : past.IsLive
  · obtain ⟨hopen, hunspent⟩ := h.live hlive
    rw [nextToken_of_live hfixed hopen hunspent]
    cases keptToken scanner.config subject standing with
    | error fault stop =>
      exact ⟨h.config, fun _ => hclosed _ rfl, fun hfinished => by cases hfinished⟩
    | ok found stop =>
      cases found with
      | none => exact ⟨h.config, fun _ => hclosed _ rfl, fun hfinished => by cases hfinished⟩
      | some token =>
        obtain ⟨htokens, hgiven⟩ := h.given hopen
        refine ⟨h.config, fun hfinished => ?_, fun _ => ⟨?_, ?_⟩⟩
        · cases hopen.symm.trans hfinished
        · intro answer hanswer
          obtain hold | hnew := List.mem_append.1 hanswer
          · exact htokens answer hold
          · rw [List.mem_singleton.1 hnew]
            rfl
        · simp [Past.add, Lexer.Scanner.told, hgiven]
  · rw [nextToken_of_over hfixed (h.isOver hlive)]
    exact ⟨h.config, fun _ => hclosed _ rfl, fun hfinished => by cases hfinished⟩

end Reflects

section Scanners

variable {τ α : Type}

theorem scanners_make (session : Session) (number : Nat) (memory : τ) (move : Move Subject τ α)
    (outcome : α → Outcome) :
    (session.make number memory move outcome).1.scanners = session.scanners := by
  unfold make
  split
  · rfl
  · rfl

theorem scanners_operate (session : Session) (number : Nat)
    (operation : Operation Subject Memory Value) :
    (session.operate number operation).1.scanners = session.scanners :=
  scanners_make session number _ _ _

theorem scanners_operateWith (session : Session) (number : Nat) (elements : Subject)
    (operation : List Value → Operation Subject Memory Value) :
    (session.operateWith number elements operation).1.scanners = session.scanners := by
  unfold operateWith
  split
  · exact scanners_make ..
  · rfl

theorem scanners_useMatch (session : Session) (number : Nat) (use : MatchUse)
    (engine : Engine) :
    (session.useMatch number use engine).1.scanners = session.scanners := by
  cases use with
  | advance | ask | read => exact scanners_make ..

theorem scanners_duplicate (session : Session) (number : Nat) (name : String) :
    (session.duplicate number name).1.scanners = session.scanners := by
  unfold duplicate
  dsimp only
  split
  · rfl
  · rfl

theorem scanners_alter (session : Session) (number : Nat) (changed : Except Fault Subject) :
    (session.alter number changed).1.scanners = session.scanners := by
  unfold alter
  split
  · rfl
  · rfl

theorem scanners_openView {view : Option Subject} {opened : Session} {inner : Nat}
    (h : session.openView number view = .ok (opened, inner)) :
    opened.scanners = session.scanners := by
  obtain ⟨subject, hopened⟩ := openView_eq_ok h
  obtain ⟨rfl, rfl⟩ := Prod.mk.inj hopened
  rfl

theorem scanners_scanAll (session : Session) (number : Nat)
    (fields : List (String × Record.Raw)) :
    (session.scanAll number fields).1.scanners = session.scanners := by
  unfold scanAll
  split
  · rfl
  · dsimp only
    split
    · rfl
    · rfl

end Scanners

/-- All scanners that were made remember what they have answered since, as long as they are on texts
or views of UTF-8. -/
def Remembers (session : Session) (events : List Event) : Prop :=
  ∀ name past, pastOf name events = some past →
    ∃ scanner, session.scanners.lookup name = some (past.number, scanner) ∧
      (¬ (session.subjectOf past.number).IsMutable → Reflects scanner past)

/-- Whenever a scanner is asked, all scanners remember what has happened before. -/
def Recalls (session : Session) (before events : List Event) : Prop :=
  ∀ earlier call later, events = earlier ++ .asked call :: later →
    Changes session call.session ∧ call.session.Remembers (before ++ earlier)

variable {before events events' : List Event}

/-- A subject that stays as it is has always done so. -/
theorem not_isMutable_of_changes (hchanges : Changes session session') (hsound : session.Sound)
    (hnumber : number < session.handles.size) (hfixed : ¬ (session'.subjectOf number).IsMutable) :
    ¬ (session.subjectOf number).IsMutable := by
  obtain ⟨-, hsame | ⟨-, hmutable⟩⟩ := hchanges.keeps (hsound.subjects hnumber)
  · rwa [← hsame]
  · exact absurd hmutable hfixed

/-- What scanners remember does not depend on what else is done in the session. -/
theorem Remembers.of_changes (h : session.Remembers events) (hsound : session.Sound)
    (hchanges : Changes session session') (hscanners : session'.scanners = session.scanners) :
    session'.Remembers events := by
  intro name past hpast
  obtain ⟨scanner, hlookup, hreflects⟩ := h name past hpast
  exact ⟨scanner, hscanners ▸ hlookup, fun hfixed => hreflects
    (not_isMutable_of_changes hchanges hsound (hsound.scanners hlookup) hfixed)⟩

/-- A scanner that is made has nothing to remember, and the others remember what they did. -/
theorem remembers_scan (h : session.Remembers events) (fields : List (String × Record.Raw)) :
    (session.scan number name fields).1.Remembers
      (events ++ session.eventsIn number (.scan name fields)) := by
  unfold scan
  rw [eventsIn]
  cases hconfig : Config.ofFields fields with
  | error faults =>
    dsimp only
    rwa [List.append_nil]
  | ok config =>
    dsimp only
    intro other past hpast
    rw [pastOf_concat, Past.record] at hpast
    split at hpast
    case isTrue hsame =>
      subst hsame
      cases hpast
      exact ⟨{ config }, by simp, fun _ => .new number config⟩
    case isFalse hother =>
      obtain ⟨scanner, hlookup, hreflects⟩ := h other past hpast
      refine ⟨scanner, ?_, hreflects⟩
      rw [List.lookup_cons, beq_eq_false_iff_ne.2 (Ne.symm hother)]
      exact hlookup

/-- A scanner that is asked remembers its answer, whichever cursor was to reply. -/
theorem remembers_step (h : session.Remembers events) (hsound : session.Sound) (number : Nat)
    (name : String) :
    (session.step number name).1.Remembers (events ++ [.asked ⟨session, number, name⟩]) := by
  have hchanges := changes_step hsound number name
  intro other past hpast
  rw [pastOf_concat, Past.record] at hpast
  split at hpast
  case isTrue hsame =>
    subst hsame
    obtain ⟨old, hold, rfl⟩ := Option.map_eq_some_iff.1 hpast
    obtain ⟨scanner, hlookup, hreflects⟩ := h _ old hold
    have hstep := step_eq hlookup number
    refine ⟨(nextToken scanner (session.subjectOf old.number)
      ⟨session.positionOf old.number, ()⟩).1, ?_, ?_⟩
    · rw [hstep]
      simp [place, scanning, Past.add]
    · intro hfixed
      have hbefore := not_isMutable_of_changes hchanges hsound (hsound.scanners hlookup) hfixed
      have houtcome : Call.outcome ⟨session, number, name⟩ = told (nextToken scanner
          (session.subjectOf old.number) ⟨session.positionOf old.number, ()⟩).2 := by
        rw [Call.outcome, Call.answer, hstep]
        rfl
      rw [houtcome]
      exact (hreflects hbefore).next hbefore _
  case isFalse hother =>
    obtain ⟨scanner, hlookup, hreflects⟩ := h other past hpast
    refine ⟨scanner, ?_, fun hfixed => hreflects
      (not_isMutable_of_changes hchanges hsound (hsound.scanners hlookup) hfixed)⟩
    cases hasked : session.scanners.lookup name with
    | none => rwa [step, hasked]
    | some found =>
      rw [step_eq hasked]
      dsimp only [place, scanning]
      rw [List.lookup_cons, beq_eq_false_iff_ne.2 (Ne.symm hother)]
      exact hlookup

theorem Recalls.nil : session.Recalls before [] := by
  intro earlier call later h
  cases earlier with
  | nil | cons => cases h

theorem Recalls.made {config : Config} : session.Recalls before [.made name number config] := by
  intro earlier call later h
  cases earlier with
  | nil => cases h
  | cons event earlier =>
    have hrest := (List.cons.inj h).2
    cases earlier with
    | nil | cons => cases hrest

theorem Recalls.asked (h : session.Remembers before) :
    session.Recalls before [.asked ⟨session, number, name⟩] := by
  intro earlier call later hevents
  cases earlier with
  | nil =>
    obtain ⟨hcall, -⟩ := List.cons.inj hevents
    cases hcall
    rw [List.append_nil]
    exact ⟨.refl, h⟩
  | cons event earlier =>
    have hrest := (List.cons.inj hevents).2
    cases earlier with
    | nil | cons => cases hrest

/-- What is recalled in the first part of a run, and from where that leads in the second. -/
theorem Recalls.append (h : session.Recalls before events) (hchanges : Changes session session')
    (h' : session'.Recalls (before ++ events) events') :
    session.Recalls before (events ++ events') := by
  intro earlier call later hevents
  obtain ⟨middle, rfl, hrest⟩ | ⟨middle, rfl, hrest⟩ := List.append_eq_append_iff.1 hevents
  · obtain ⟨hreached, hremembers⟩ := h' middle call later hrest
    rw [List.append_assoc] at hremembers
    exact ⟨hchanges.trans hreached, hremembers⟩
  · cases middle with
    | nil =>
      obtain ⟨hreached, hremembers⟩ := h' [] call later hrest.symm
      rw [List.append_nil, List.append_nil] at hremembers
      exact ⟨hchanges.trans hreached, hremembers⟩
    | cons event middle =>
      obtain ⟨rfl, rfl⟩ := List.cons.inj hrest
      exact h earlier call middle rfl

/-- What is recalled from a session on is recalled from the sessions before it on. -/
theorem Recalls.after (h : session'.Recalls before events) (hchanges : Changes session session') :
    session.Recalls before events := by
  intro earlier call later hevents
  obtain ⟨hreached, hremembers⟩ := h earlier call later hevents
  exact ⟨hchanges.trans hreached, hremembers⟩

/-- A command that has nothing to do with scanners. -/
theorem Remembers.aside (h : session.Remembers before) (hsound : session.Sound)
    (hchanges : Changes session session') (hscanners : session'.scanners = session.scanners) :
    session.Recalls before [] ∧ session'.Remembers (before ++ []) := by
  rw [List.append_nil]
  exact ⟨.nil, h.of_changes hsound hchanges hscanners⟩

mutual

/-- One case for each kind of command: those that have nothing to do with scanners leave them
alone. -/
theorem remembers_obey {session : Session} {number : Nat} {before : List Event}
    (h : session.Remembers before) (hsound : session.Sound)
    (hnumber : number < session.handles.size) :
    (command : Command) →
      session.Recalls before (session.eventsIn number command) ∧
        (session.obey number command).1.Remembers (before ++ session.eventsIn number command)
  | .isAtEnd | .remainder | .consumedSince _ | .advance | .advanceBy _ | .advanceWhile _
  | .advanceInspecting _ | .peek | .peek2 | .peek3 | .hasPrefix _ | .pop | .popElement _
  | .popWhere _ | .read _ | .readWhile _ => by
    refine h.aside hsound (changes_obey hsound hnumber _) ?_
    rw [obey]
    exact scanners_operate session number _
  | .startsWith _ | .readPrefix _ => by
    refine h.aside hsound (changes_obey hsound hnumber _) ?_
    rw [obey]
    exact scanners_operateWith ..
  | .describe => by
    refine h.aside hsound (changes_obey hsound hnumber _) ?_
    rw [obey]
    exact scanners_make session number _ _ _
  | .matching use engine => by
    refine h.aside hsound (changes_obey hsound hnumber _) ?_
    rw [obey]
    exact scanners_useMatch ..
  | .copy name => by
    refine h.aside hsound (changes_obey hsound hnumber _) ?_
    rw [obey]
    exact scanners_duplicate ..
  | .setPosition position => h.aside hsound (.single (.place number position)) rfl
  | .append _ | .truncate _ => by
    refine h.aside hsound (changes_obey hsound hnumber _) ?_
    rw [obey]
    exact scanners_alter ..
  | .block view ending body => by
    rw [obey, eventsIn]
    cases hopen : session.openView number view with
    | error fault => exact h.aside hsound .refl rfl
    | ok opened =>
      obtain ⟨opened, inner⟩ := opened
      obtain ⟨hchange, hinner⟩ := change_openView hopen
      have hopened := h.of_changes hsound (.single hchange) (scanners_openView hopen)
      obtain ⟨hbody, hended⟩ := remembers_run hopened (hchange.sound hsound) hinner body
      have hend := (changes_run (hchange.sound hsound) hinner body).sound (hchange.sound hsound)
      exact ⟨hbody.after (.single hchange), hended.of_changes hend (.single (.place number _)) rfl⟩
  | .scan name fields => by
    rw [obey]
    refine ⟨?_, remembers_scan h fields⟩
    rw [eventsIn]
    split
    · exact .made
    · exact .nil
  | .next name => by
    rw [obey]
    exact ⟨.asked h, remembers_step h hsound number name⟩
  | .scanAll fields => by
    refine h.aside hsound (changes_obey hsound hnumber _) ?_
    rw [obey]
    exact scanners_scanAll ..

/-- Whatever script is obeyed, every scanner that is asked remembers all that it has answered
before, and so it does afterwards. -/
theorem remembers_run {session : Session} {number : Nat} {before : List Event}
    (h : session.Remembers before) (hsound : session.Sound)
    (hnumber : number < session.handles.size) :
    (script : Script) →
      session.Recalls before (session.events number script) ∧
        (session.run number script).1.Remembers (before ++ session.events number script)
  | .done => h.aside hsound .refl rfl
  | .step on command rest => by
    rw [events]
    cases htarget : session.target? number on with
    | none =>
      rw [run_step_of_none htarget]
      exact remembers_run h hsound hnumber rest
    | some target =>
      have htargetSize := target?_lt hsound hnumber htarget
      have hchanges := changes_obey hsound htargetSize command
      obtain ⟨hcommand, hafter⟩ := remembers_obey h hsound htargetSize command
      obtain ⟨hrest, hend⟩ := remembers_run hafter (hchanges.sound hsound)
        (Nat.lt_of_lt_of_le hnumber hchanges.size_le) rest
      rw [run_step_of_some htarget]
      dsimp only
      rw [← List.append_assoc]
      exact ⟨hcommand.append hchanges hrest, hend⟩

end

end Session

end Scanning
