import Mathlib.Data.List.Induction
import Scanning.Proofs.Lexer.Agreement
import Scanning.Proofs.Lexer.Bounds
import Scanning.Proofs.Lexer.Breaking
import Scanning.Proofs.ScalarView.Broken
import Scanning.Proofs.Session.Calls

namespace Scanning.Session

open Lexer (Scanner Token Config)
open Move (landing)
open IndexSpace
open Utf8 (Malformed byteOffset)

namespace Call

/-- The same call of a scanner that has been made just now. -/
def renewed (call : Call) (past : Past) : Call :=
  { call with session := call.session.scanning past.number call.name { config := past.config } }

variable {call : Call} {past : Past} {scanner : Scanner}

/-- A call of a scanner that may give another token. -/
theorem answer_of_live (hlookup : call.session.scanners.lookup call.name =
      some (past.number, scanner)) (hreflects : Reflects scanner past)
    (hfixed : ¬ (call.session.subjectOf past.number).IsMutable) (hlive : past.IsLive) :
    let kept := keptToken past.config (call.session.subjectOf past.number)
      ⟨call.session.positionOf past.number, ()⟩
    call.answer.1.handles =
        (call.session.place past.number (landing kept).position).handles ∧
      call.answer.1.subjects = call.session.subjects ∧
      call.answer.2 =
        (call.session.place past.number (landing kept).position).reply call.number (told kept) := by
  obtain ⟨hopen, hunspent⟩ := hreflects.live hlive
  rw [answer, step_eq hlookup, nextToken_of_live hfixed hopen hunspent, hreflects.config]
  exact ⟨rfl, rfl, rfl⟩

/-- A scanner that has come to its end moves nothing when it is asked again, and replies that there
is no token. -/
theorem answer_of_over (hlookup : call.session.scanners.lookup call.name =
      some (past.number, scanner)) (hreflects : Reflects scanner past)
    (hfixed : ¬ (call.session.subjectOf past.number).IsMutable) (hover : ¬ past.IsLive) :
    call.answer.1.handles = call.session.handles ∧
      call.answer.1.subjects = call.session.subjects ∧
      call.answer.2 = call.session.reply call.number (.token none) := by
  rw [answer, step_eq hlookup, nextToken_of_over hfixed (hreflects.isOver hover)]
  have hstays : (call.session.scanning past.number call.name
      { scanner with finished := true }).place past.number (call.session.positionOf past.number) =
        call.session.scanning past.number call.name { scanner with finished := true } :=
    place_positionOf ..
  dsimp only [landing, told]
  rw [hstays]
  exact ⟨rfl, rfl, rfl⟩

/-- A scanner that has been made just now is asked like any other that may give another token. -/
theorem answer_renewed (hfixed : ¬ (call.session.subjectOf past.number).IsMutable)
    (hlive : past.IsLive) :
    let kept := keptToken past.config (call.session.subjectOf past.number)
      ⟨call.session.positionOf past.number, ()⟩
    (call.renewed past).answer.1.handles =
        (call.session.place past.number (landing kept).position).handles ∧
      (call.renewed past).answer.1.subjects = call.session.subjects ∧
      (call.renewed past).answer.2 =
        (call.session.place past.number (landing kept).position).reply call.number (told kept) := by
  let fresh : Past := { past with answers := [] }
  have hlookup : (call.renewed past).session.scanners.lookup (call.renewed past).name =
      some (fresh.number, { config := past.config }) := List.lookup_cons_self
  have hnew : Reflects { config := past.config } fresh := .new _ _
  have hfresh : fresh.IsLive := by
    refine ⟨?_, ?_⟩
    · intro answer hanswer
      cases hanswer
    · intro most hmost
      exact Nat.lt_of_le_of_lt (Nat.zero_le _) (hlive.2 most hmost)
  exact @answer_of_live (call.renewed past) fresh _ hlookup hnew hfixed hfresh

end Call

/-- The tokens among some answers. -/
def tokensOf (answers : List Outcome) : List Token := answers.filterMap Outcome.token?

/-- A failure to decode, unlike a complaint of the lexer. -/
def IsDecodingFailure : Outcome → Prop
  | .fault cause => ¬ cause.IsLexical
  | _ => False

/-- Answers by turns of scanners with one configuration, from a position on. Each call finds out anew
where the cursor is, or nothing comes of it, which may be so only when there has been an answer
without a token. -/
inductive Handed (config : Config) (subject : Subject) : Bool → Int → List Outcome → Prop where
  | done (isOver : Bool) (position : Int) : Handed config subject isOver position []
  | anew {isOver : Bool} {position : Int} {answers : List Outcome}
      (h : Handed config subject
        (isOver || (told (keptToken config subject ⟨position, ()⟩)).token?.isNone)
        (landing (keptToken config subject ⟨position, ()⟩)).position answers) :
      Handed config subject isOver position (told (keptToken config subject ⟨position, ()⟩) :: answers)
  | idle {position : Int} {answers : List Outcome} (h : Handed config subject true position answers) :
      Handed config subject true position (.token none :: answers)

variable {config : Config} {subject : Subject} {position : Int} {answers : List Outcome}

/-- No answer but the last is a failure to decode. -/
def Decodes (answers : List Outcome) : Prop :=
  ∀ earlier answer later, answers = earlier ++ answer :: later → IsDecodingFailure answer →
    later = []

theorem Decodes.tail {answer : Outcome} (h : Decodes (answer :: answers)) : Decodes answers := by
  intro earlier other later hanswers
  exact h (answer :: earlier) other later (congrArg (answer :: ·) hanswers)

/-- From here on a scanner gives no token, and stays. -/
def IsOver (config : Config) (subject : Subject) (position : Int) : Prop :=
  (told (keptToken config subject ⟨position, ()⟩)).token? = none ∧
    (landing (keptToken config subject ⟨position, ()⟩)).position = position

section Over

variable {σ : Type} [IndexSpace σ Char] {characters : σ} {standing : Standing Unit}

/-- Where the scanning is over there is no token, and the cursor stays. -/
theorem stays_of_over (h : Lexer.Over config characters standing) :
    (told (Lexer.nextKept config characters standing)).token? = none ∧
      (landing (Lexer.nextKept config characters standing)).position = standing.position := by
  obtain h | ⟨fault, -, h⟩ := h
  · rw [h]
    exact ⟨rfl, rfl⟩
  · rw [h]
    exact ⟨rfl, rfl⟩

/-- Where an answer without a token leaves the cursor, unless it is a failure to decode. -/
theorem over_landing (plain : Plain characters)
    (hnone : (told (Lexer.nextKept config characters standing)).token? = none)
    (hdecodes : ¬ IsDecodingFailure (told (Lexer.nextKept config characters standing))) :
    Lexer.Over config characters (landing (Lexer.nextKept config characters standing)) := by
  cases hkept : Lexer.nextKept config characters standing with
  | ok found stop =>
    rw [hkept] at hnone
    cases found with
    | none => exact Lexer.over_of_none hkept
    | some token => cases hnone
  | error fault stop =>
    rw [hkept] at hdecodes
    exact Lexer.over_of_complaint plain hkept (not_not.1 hdecodes)

end Over

/-- Where there is no token, and this is no failure to decode, the scanning is over at the place
that it has come to. -/
theorem isOver_landing
    (hnone : (told (keptToken config subject ⟨position, ()⟩)).token? = none)
    (hdecodes : ¬ IsDecodingFailure (told (keptToken config subject ⟨position, ()⟩))) :
    IsOver config subject (landing (keptToken config subject ⟨position, ()⟩)).position := by
  cases subject with
  | text characters => exact stays_of_over (over_landing characters.plain hnone hdecodes)
  | scalars view => exact stays_of_over (over_landing view.plain hnone hdecodes)
  | bytes | items => exact absurd id hdecodes

/-- Once the scanning is over none of the scanners gives a token any more. -/
theorem Handed.tokensOf_of_isOver {isOver : Bool} (h : Handed config subject isOver position answers)
    (hover : IsOver config subject position) : tokensOf answers = [] := by
  induction h with
  | done => rfl
  | anew h ih =>
    rw [tokensOf, List.filterMap_cons_none hover.1]
    apply ih
    rw [hover.2]
    exact hover
  | idle h ih => exact ih hover

/-- The tokens that a new scanner would give from a position on. -/
def tokensFrom (config : Config) (given : Nat) (subject : Subject) (position : Int) : List Token :=
  (remainingTokens { config, given } subject ⟨position, ()⟩).1

section Given

variable (hlimit : config.maxTokens = none) (given : Nat)

include hlimit

/-- A new scanner gives the token that stands at its place first, and then what one would give from
the end of it. -/
theorem tokensFrom_of_some (hfixed : ¬ subject.IsMutable) {token : Token} {stop : Standing Unit}
    (h : keptToken config subject ⟨position, ()⟩ = .ok (some token) stop) :
    tokensFrom config given subject position =
      token :: tokensFrom config (given + 1) subject stop.position := by
  have hunspent : Scanner.isSpent { config, given } = false := by
    rw [Scanner.isSpent, hlimit]
  cases subject with
  | text | scalars => exact congrArg Prod.fst (Lexer.drain_of_some rfl hunspent h)
  | bytes | items => exact absurd trivial hfixed

theorem tokensFrom_of_none (h : (told (keptToken config subject ⟨position, ()⟩)).token? = none) :
    tokensFrom config given subject position = [] := by
  have hunspent : Scanner.isSpent { config, given } = false := by
    rw [Scanner.isSpent, hlimit]
  cases hkept : keptToken config subject ⟨position, ()⟩ with
  | ok found stop =>
    rw [hkept] at h
    cases found with
    | none =>
      cases subject with
      | text | scalars => exact congrArg Prod.fst (Lexer.drain_of_none rfl hunspent hkept)
      | bytes | items => rfl
    | some token => cases h
  | error fault stop =>
    cases subject with
    | text | scalars => exact congrArg Prod.fst (Lexer.drain_of_error rfl hunspent hkept)
    | bytes | items => rfl

end Given

theorem told_eq_some {result : EStateM.Result Fault (Standing Unit) (Option Token)} {token : Token}
    (h : (told result).token? = some token) : ∃ stop, result = .ok (some token) stop := by
  cases result with
  | error fault stop => cases h
  | ok found stop =>
    obtain rfl : found = some token := h
    exact ⟨stop, rfl⟩

/-- Scanners that take turns give the first tokens of a single scan, and all of them before one of
them gives none. -/
theorem Handed.tokens (h : Handed config subject false position answers)
    (hlimit : config.maxTokens = none) (hfixed : ¬ subject.IsMutable) (hdecodes : Decodes answers)
    (given : Nat) :
    tokensOf answers <+: tokensFrom config given subject position ∧
      ((∃ answer ∈ answers, answer.token? = none) →
        tokensOf answers = tokensFrom config given subject position) := by
  generalize hover : false = isOver at h
  induction h generalizing given with
  | done => exact ⟨List.nil_prefix, fun ⟨answer, hmem, _⟩ => by cases hmem⟩
  | @anew isOver position answers h ih =>
    subst hover
    cases htoken : (told (keptToken config subject ⟨position, ()⟩)).token? with
    | none =>
      have hrest : tokensOf answers = [] := by
        by_cases hfails : IsDecodingFailure (told (keptToken config subject ⟨position, ()⟩))
        · rw [hdecodes [] _ answers rfl hfails]
          rfl
        · exact h.tokensOf_of_isOver (isOver_landing htoken hfails)
      rw [tokensOf, List.filterMap_cons_none htoken, tokensFrom_of_none hlimit given htoken]
      exact ⟨hrest ▸ List.nil_prefix, fun _ => hrest⟩
    | some token =>
      obtain ⟨stop, hkept⟩ := told_eq_some htoken
      obtain ⟨hbegins, hall⟩ := ih hdecodes.tail (given + 1) (by rw [htoken]; rfl)
      rw [tokensOf, List.filterMap_cons_some htoken, tokensFrom_of_some hlimit given hfixed hkept]
      rw [hkept] at hbegins hall
      refine ⟨(List.prefix_cons_inj token).2 hbegins, ?_⟩
      rintro ⟨answer, hmem, hnone⟩
      obtain rfl | hmem := List.mem_cons.1 hmem
      · rw [htoken] at hnone
        cases hnone
      · exact congrArg (token :: ·) (hall ⟨answer, hmem, hnone⟩)
  | idle => cases hover

/-- There is no failure to decode in a text. -/
theorem not_isDecodingFailure_text {characters : Sequence Char} (hwithin : Within characters position)
    (config : Config) :
    ¬ IsDecodingFailure (told (keptToken config (.text characters) ⟨position, ()⟩)) := by
  obtain ⟨k, rfl⟩ := Int.eq_ofNat_of_zero_le hwithin.1
  have hk : k ≤ characters.elements.toList.length := Int.ofNat_le.1 hwithin.2
  have hnext := Lexer.nextKept_agrees characters.layout characters.layout hk config ()
  change ¬ IsDecodingFailure (told (Lexer.nextKept config characters ⟨(id k : Nat), ()⟩))
  generalize Lexer.nextKept config characters ⟨(id k : Nat), ()⟩ = result at hnext
  cases hnext with
  | finished | token => exact id
  | failed hfault =>
    cases hfault
    exact not_not.2 rfl

/-- From a place inside a text no answer is a failure to decode. -/
theorem Handed.decodes {isOver : Bool} {characters : Sequence Char}
    (h : Handed config (.text characters) isOver position answers)
    (hwithin : Within characters position) : Decodes answers := by
  have hnever : ∀ answer ∈ answers, ¬ IsDecodingFailure answer := by
    induction h with
    | done => simp
    | anew h ih =>
      rw [List.forall_mem_cons]
      exact ⟨not_isDecodingFailure_text hwithin config, ih (Lexer.within_nextKept config hwithin)⟩
    | idle h ih =>
      rw [List.forall_mem_cons]
      exact ⟨id, ih hwithin⟩
  intro earlier answer later hanswers hfails
  refine absurd hfails (hnever answer ?_)
  rw [hanswers]
  exact List.mem_append_right _ List.mem_cons_self

/-- The call of a scanner with one of the names. -/
def Event.call? (names : List String) : Event → Option Call
  | .asked call => if call.name ∈ names then some call else none
  | .made .. => none

/-- The calls of scanners with some names. -/
def callsOf (names : List String) (events : List Event) : List Call :=
  events.filterMap (Event.call? names)

/-- Between these calls a cursor is where it was left by the one before. -/
def MovesAlone (target : Nat) : Int → List Call → Prop
  | _, [] => True
  | position, call :: calls =>
    call.session.positionOf target = position ∧
      MovesAlone target (call.answer.1.positionOf target) calls

theorem callsOf_append (names : List String) (events events' : List Event) :
    callsOf names (events ++ events') = callsOf names events ++ callsOf names events' :=
  List.filterMap_append

/-- What a scanner has answered it has answered to one of the calls. -/
theorem mem_callsOf_of_pastOf {names : List String} {name : String} (hname : name ∈ names)
    {events : List Event} {past : Past} (h : pastOf name events = some past) :
    ∀ answer ∈ past.answers, ∃ call ∈ callsOf names events, call.outcome = answer := by
  induction events using List.reverseRecOn generalizing past with
  | nil => cases h
  | append_singleton events event ih =>
    rw [pastOf_concat] at h
    intro answer hanswer
    rw [callsOf_append]
    cases event with
    | made other number config =>
      rw [Past.record] at h
      split at h
      · cases h
        cases hanswer
      · obtain ⟨call, hmem, houtcome⟩ := ih h answer hanswer
        exact ⟨call, List.mem_append_left _ hmem, houtcome⟩
    | asked call =>
      rw [Past.record] at h
      split at h
      case isTrue hsame =>
        subst hsame
        obtain ⟨old, hold, rfl⟩ := Option.map_eq_some_iff.1 h
        obtain hmem | hnew := List.mem_append.1 hanswer
        · obtain ⟨earlier, hmem, houtcome⟩ := ih hold answer hmem
          exact ⟨earlier, List.mem_append_left _ hmem, houtcome⟩
        · refine ⟨call, List.mem_append_right _ ?_, (List.mem_singleton.1 hnew).symm⟩
          simp [callsOf, Event.call?, hname]
      case isFalse =>
        obtain ⟨earlier, hmem, houtcome⟩ := ih h answer hanswer
        exact ⟨earlier, List.mem_append_left _ hmem, houtcome⟩

/-- Each of the calls is one of the events, and those before it are the calls among the events before
that one. -/
theorem exists_events_of_callsOf {names : List String} {events : List Event} {call : Call}
    {earlier later : List Call} (h : callsOf names events = earlier ++ call :: later) :
    call.name ∈ names ∧ ∃ before after, events = before ++ .asked call :: after ∧
      callsOf names before = earlier := by
  obtain ⟨front, rest, rfl, hfront, hrest⟩ := List.filterMap_eq_append_iff.1 h
  obtain ⟨skipped, event, after, rfl, hskipped, hevent, -⟩ := List.filterMap_eq_cons_iff.1 hrest
  cases event with
  | made => cases hevent
  | asked other =>
    rw [Event.call?] at hevent
    split at hevent
    · cases hevent
      refine ⟨‹_›, front ++ skipped, after, ?_, ?_⟩
      · rw [List.append_assoc]
      · have hnone : callsOf names skipped = [] := List.filterMap_eq_nil_iff.2 hskipped
        rw [callsOf_append, hnone, List.append_nil]
        exact hfront
    · cases hevent

variable {session : Session} {number target : Nat} {script : Script}

/-- What the scanners of a run have been asked is recalled by the events of the run, from any sound
session. -/
theorem recalls_events (hsound : session.Sound) (hnumber : number < session.handles.size)
    (script : Script) : session.Recalls [] (session.events number script) := by
  have hstart : session.Remembers [] := by
    intro name past hpast
    cases hpast
  exact (remembers_run hstart hsound hnumber script).1

theorem positionOf_congr {session session' : Session} (h : session.handles = session'.handles) :
    session.positionOf number = session'.positionOf number := by
  rw [positionOf, handle, h]
  rfl

/-- All that is known of a call of a scanner that was made in the same run. -/
theorem exists_reflects (hsound : session.Sound) (hnumber : number < session.handles.size)
    {earlier later : List Event} {call : Call}
    (hevents : session.events number script = earlier ++ .asked call :: later) {past : Past}
    (hpast : pastOf call.name earlier = some past)
    (hfixed : ¬ (call.session.subjectOf past.number).IsMutable) :
    ∃ scanner, call.session.scanners.lookup call.name = some (past.number, scanner) ∧
      Reflects scanner past := by
  obtain ⟨-, hremembers⟩ := recalls_events hsound hnumber script earlier call later hevents
  obtain ⟨scanner, hlookup, hreflects⟩ := hremembers call.name past hpast
  exact ⟨scanner, hlookup, hreflects hfixed⟩

/-- Scanners on one cursor with one configuration and no limit, which they alone move. -/
structure Shared (session : Session) (number : Nat) (script : Script) (target : Nat)
    (config : Config) (names : List String) : Prop where
  cursor : target < session.handles.size
  fixed : ¬ (session.subjectOf target).IsMutable
  limit : config.maxTokens = none
  made {earlier later : List Event} {call : Call}
    (h : session.events number script = earlier ++ .asked call :: later) (hname : call.name ∈ names) :
    ∃ answers, pastOf call.name earlier = some ⟨target, config, answers⟩
  alone : MovesAlone target (session.positionOf target) (callsOf names (session.events number script))

section Turns

variable {config : Config} {names : List String} (hsound : session.Sound)
  (hnumber : number < session.handles.size)
  (h : Shared session number script target config names)

include hsound hnumber h

/-- What one of the calls does to the cursor: it finds out anew what is there, or it does nothing, for
which there is a reason in the calls before. -/
theorem Shared.turn {earlier later : List Call} {call : Call}
    (hcalls : callsOf names (session.events number script) = earlier ++ call :: later) :
    let kept := keptToken config (session.subjectOf target) ⟨call.session.positionOf target, ()⟩
    (call.outcome = told kept ∧
        call.answer.1.positionOf target = (landing kept).position) ∨
      (∃ before ∈ earlier, before.outcome.token? = none) ∧ call.outcome = .token none ∧
        call.answer.1.positionOf target = call.session.positionOf target := by
  obtain ⟨hname, before, after, hevents, rfl⟩ := exists_events_of_callsOf hcalls
  obtain ⟨answers, hpast⟩ := h.made hevents hname
  obtain ⟨hchanges, -⟩ := recalls_events hsound hnumber script before call after hevents
  obtain ⟨⟨hcursor, -⟩, hsame | ⟨hmutable, -⟩⟩ := hchanges.keeps (hsound.subjects h.cursor)
  swap
  · exact absurd hmutable h.fixed
  have hfixed : ¬ (call.session.subjectOf target).IsMutable := hsame ▸ h.fixed
  obtain ⟨scanner, hlookup, hreflects⟩ := exists_reflects hsound hnumber hevents hpast hfixed
  rw [← hsame]
  by_cases hlive : Past.IsLive ⟨target, config, answers⟩
  · obtain ⟨hhandles, -, hreply⟩ := Call.answer_of_live hlookup hreflects hfixed hlive
    refine .inl ⟨congrArg Reply.outcome hreply, ?_⟩
    rw [positionOf_congr hhandles, positionOf_place hcursor]
  · obtain ⟨hhandles, -, hreply⟩ := Call.answer_of_over hlookup hreflects hfixed hlive
    refine .inr ⟨?_, congrArg Reply.outcome hreply, positionOf_congr hhandles⟩
    have hroom : ∀ most ∈ config.maxTokens, answers.length < most := by
      rw [h.limit]
      intro most hmost
      cases hmost
    obtain ⟨answer, hanswer⟩ := not_forall.1 fun htokens => hlive ⟨htokens, hroom⟩
    obtain ⟨hmem, hnone⟩ := Classical.not_imp.1 hanswer
    obtain ⟨asked, hasked, rfl⟩ := mem_callsOf_of_pastOf hname hpast answer hmem
    exact ⟨asked, hasked, Option.not_isSome_iff_eq_none.1 hnone⟩

/-- What scanners that share a cursor and a configuration answer is handed out by turns, as long as
nothing else moves the cursor. -/
theorem Shared.handed :
    Handed config (session.subjectOf target) false (session.positionOf target)
      ((callsOf names (session.events number script)).map Call.outcome) := by
  have hturns (earlier later : List Call) (position : Int)
      (hcalls : callsOf names (session.events number script) = earlier ++ later)
      (halone : MovesAlone target position later) :
      Handed config (session.subjectOf target)
        (earlier.any fun call => call.outcome.token?.isNone) position (later.map Call.outcome) := by
    induction later generalizing earlier position with
    | nil => exact .done _ position
    | cons call later ih =>
      obtain ⟨rfl, halone⟩ := halone
      have hnext : callsOf names (session.events number script) = (earlier ++ [call]) ++ later := by
        rw [hcalls, List.append_assoc, List.singleton_append]
      have hrest := ih (earlier ++ [call]) _ hnext halone
      rw [List.any_append, List.any_cons, List.any_nil, Bool.or_false] at hrest
      obtain ⟨houtcome, hposition⟩ | ⟨⟨before, hmem, hnone⟩, houtcome, hposition⟩ :=
        h.turn hsound hnumber hcalls
      · rw [houtcome, hposition] at hrest
        rw [List.map_cons, houtcome]
        exact .anew hrest
      · have hreason : (earlier.any fun call => call.outcome.token?.isNone) = true :=
          List.any_eq_true.2 ⟨before, hmem, by rw [hnone]; rfl⟩
        rw [hreason, Bool.true_or, hposition] at hrest
        rw [hreason, List.map_cons, houtcome]
        exact .idle hrest
  exact hturns [] _ _ rfl h.alone

end Turns

/-- Whatever is done in between, a scanner of a text or of a view of UTF-8 that has given nothing but
tokens, and fewer than it may, is answered like one made just now, and the cursors go where they would
go for that one; any other scanner is answered with nothing and moves nothing. Scanners of one
configuration that share a cursor give the first tokens of a single scan by turns, and all of them
before one of them gives none, unless a failure to decode comes before other calls; in a text there is
no such failure. -/
theorem asked_as_renewed {session : Session} {number : Nat} (hsound : session.Sound)
    (hnumber : number < session.handles.size) (script : Script) :
    (∀ {earlier later : List Event} {call : Call} {past : Past},
      session.events number script = earlier ++ .asked call :: later →
      pastOf call.name earlier = some past →
      ¬ (call.session.subjectOf past.number).IsMutable →
        (past.IsLive →
          call.answer.1.handles = (call.renewed past).answer.1.handles ∧
            call.answer.1.subjects = (call.renewed past).answer.1.subjects ∧
            call.answer.2 = (call.renewed past).answer.2) ∧
        (¬ past.IsLive →
          call.answer.1.handles = call.session.handles ∧
            call.answer.1.subjects = call.session.subjects ∧
            call.answer.2 = call.session.reply call.number (.token none))) ∧
    ∀ {target : Nat} {config : Config} {names : List String},
      Shared session number script target config names →
      let answers := (callsOf names (session.events number script)).map Call.outcome
      let single := (remainingTokens { config } (session.subjectOf target)
        ⟨session.positionOf target, ()⟩).1
      (Decodes answers ∨ ∃ characters, session.subjectOf target = .text characters ∧
        Within characters (session.positionOf target)) →
      tokensOf answers <+: single ∧
        ((∃ answer ∈ answers, answer.token? = none) → tokensOf answers = single) := by
  refine ⟨?_, ?_⟩
  · intro earlier later call past hevents hpast hfixed
    obtain ⟨scanner, hlookup, hreflects⟩ := exists_reflects hsound hnumber hevents hpast hfixed
    refine ⟨?_, Call.answer_of_over hlookup hreflects hfixed⟩
    intro hlive
    obtain ⟨hhandles, hsubjects, hreply⟩ := Call.answer_of_live hlookup hreflects hfixed hlive
    obtain ⟨hhandles', hsubjects', hreply'⟩ := Call.answer_renewed hfixed hlive
    exact ⟨hhandles.trans hhandles'.symm, hsubjects.trans hsubjects'.symm, hreply.trans hreply'.symm⟩
  · intro target config names hshared answers single hdecodes
    have hhanded := hshared.handed hsound hnumber
    have hdecodes : Decodes answers := by
      obtain hdecodes | ⟨characters, htext, hwithin⟩ := hdecodes
      · exact hdecodes
      · rw [htext] at hhanded
        exact hhanded.decodes hwithin
    exact hhanded.tokens hshared.limit hshared.fixed hdecodes 0

/-- Two scanners take turns. -/
def turns : Script := .ofList [
  (none, .scan "a" []),
  (none, .scan "b" []),
  (none, .next "a"),
  (none, .next "b")]

/-- The calls that are made when two new scanners of a session's first cursor take turns. -/
def firstTurn (session : Session) : Call where
  session := (session.scanning 0 "a" { config := {} }).scanning 0 "b" { config := {} }
  number := 0
  name := "a"

def secondTurn (session : Session) : Call where
  session := (firstTurn session).answer.1
  number := 0
  name := "b"

theorem events_turns (session : Session) :
    session.events 0 turns = [.made "a" 0 {}, .made "b" 0 {}, .asked (firstTurn session),
      .asked (secondTurn session)] := rfl

/-- Two scanners of any first cursor whose subject is fixed share it in that script. -/
theorem shared_turns {session : Session} (hcursor : 0 < session.handles.size)
    (hfixed : ¬ (session.subjectOf 0).IsMutable) : Shared session 0 turns 0 {} ["a", "b"] where
  cursor := hcursor
  fixed := hfixed
  limit := rfl
  made {earlier later call} h hname := by
    rw [events_turns] at h
    rcases earlier with _ | ⟨_, _ | ⟨_, _ | ⟨_, _ | ⟨_, rest⟩⟩⟩⟩
    · cases h
    · cases h
    · simp only [List.cons_append, List.nil_append, List.cons.injEq, Event.asked.injEq] at h
      obtain ⟨rfl, rfl, rfl, -⟩ := h
      exact ⟨_, rfl⟩
    · simp only [List.cons_append, List.nil_append, List.cons.injEq, Event.asked.injEq] at h
      obtain ⟨rfl, rfl, rfl, rfl, -⟩ := h
      exact ⟨_, rfl⟩
    · simp at h
  alone := ⟨rfl, rfl, trivial⟩

/-- A scanner that may give one token is asked again after that, elsewhere. -/
def spent : Script := .ofList [
  (none, .scan "a" [("max_tokens", .int 1)]),
  (none, .next "a"),
  (none, .setPosition 0),
  (none, .next "a")]

def atMostOne : Config := { maxTokens := some 1 }

def onlyCall (session : Session) : Call where
  session := session.scanning 0 "a" { config := atMostOne }
  number := 0
  name := "a"

def spentCall (session : Session) : Call where
  session := (onlyCall session).answer.1.place 0 0
  number := 0
  name := "a"

theorem events_spent (session : Session) :
    session.events 0 spent =
      [.made "a" 0 atMostOne, .asked (onlyCall session), .asked (spentCall session)] := rfl

theorem subjectOf_spentCall (session : Session) :
    (spentCall session).session.subjectOf 0 = session.subjectOf 0 := by
  have hlookup : (onlyCall session).session.scanners.lookup "a" =
      some (0, { config := atMostOne }) := rfl
  have hanswer : (onlyCall session).answer = _ := step_eq hlookup 0
  rw [spentCall, subjectOf_place, hanswer, subjectOf_place]
  rfl

/-- Over the text `a b` a scanner that is asked first answers like a new one, one that has given its
last token stays, and two that take turns give tokens of one scan. -/
theorem asked_as_renewed_by_turns :
    let session := alone (.ofText "a b") 0
    session.Sound ∧
      (firstTurn session).answer.2 = ((firstTurn session).renewed ⟨0, {}, []⟩).answer.2 ∧
      (spentCall session).answer.1.handles = (spentCall session).session.handles ∧
      tokensOf ((callsOf ["a", "b"] (session.events 0 turns)).map Call.outcome) <+:
        (remainingTokens { config := {} } (.ofText "a b") ⟨0, ()⟩).1 := by
  intro session
  have hsound : session.Sound := sound_alone _ 0
  have hshared : Shared session 0 turns 0 {} ["a", "b"] := shared_turns Nat.one_pos id
  obtain ⟨hcalls, hturns⟩ := asked_as_renewed hsound Nat.one_pos turns
  obtain ⟨hspent, -⟩ := asked_as_renewed hsound Nat.one_pos spent
  refine ⟨hsound, ?_, ?_, ?_⟩
  · have hlive : Past.IsLive ⟨0, {}, []⟩ := ⟨by simp, by simp⟩
    have hevents : session.events 0 turns = [.made "a" 0 {}, .made "b" 0 {}] ++
        .asked (firstTurn session) :: [.asked (secondTurn session)] := events_turns session
    obtain ⟨-, -, hreply⟩ := (hcalls hevents rfl id).1 hlive
    exact hreply
  · have hover : ¬ Past.IsLive ⟨0, atMostOne, [(onlyCall session).outcome]⟩ :=
      fun ⟨_, hroom⟩ => Nat.lt_irrefl 1 (hroom 1 rfl)
    have hfixed : ¬ ((spentCall session).session.subjectOf 0).IsMutable := by
      rw [subjectOf_spentCall]
      exact id
    have hevents : session.events 0 spent = [.made "a" 0 atMostOne, .asked (onlyCall session)] ++
        .asked (spentCall session) :: [] := events_spent session
    obtain ⟨hstays, -, -⟩ := (hspent hevents rfl hfixed).2 hover
    exact hstays
  · obtain ⟨hbegins, -⟩ := hturns hshared (.inr ⟨_, rfl, ⟨by decide, by decide⟩⟩)
    exact hbegins

/-- The bytes of a digit and a point, and one that begins no character. -/
def brokenPoint : ScalarView := .ofBytes [0x31, 0x2E, 0xFF]

def strayByte : Malformed := ⟨0xFF, 2, 3, .invalidStart⟩

/-- These bytes are well formed up to the byte that begins no character. -/
theorem broken_brokenPoint :
    Broken brokenPoint ['1', '.'] (byteOffset ['1', '.']) (.malformed strayByte) where
  toBegins := ScalarView.begins_ofBytes
    (show [0x31, 0x2E, 0xFF] = Utf8.encode ['1', '.'] ++ [0xFF] by decide)
  break_ne_end := by decide
  elementAt_break := rfl

theorem prefixEnd_brokenPoint {k : Nat} (hk : k < 2) {first : Char} (others : List Char)
    (hfirst : (['1', '.'][k] == first) = false) :
    prefixEnd brokenPoint (byteOffset ['1', '.'] k) (first :: others) = .ok none := by
  rw [broken_brokenPoint.prefixEnd_cons hk, hfirst]
  rfl

section Lexemes

open Lexer Move

/-- If none of some prefixes stands here, then reading any of them reads nothing. -/
theorem readAnyPrefix_of_none {σ τ ε : Type} [IndexSpace σ ε] [BEq ε] {subject : σ}
    {standing : Standing τ} {lists : List (List ε)}
    (h : ∀ list ∈ lists, readPrefix list subject standing = .ok false standing) :
    readAnyPrefix lists subject standing = .ok false standing := by
  induction lists with
  | nil => rfl
  | cons list others ih =>
    rw [List.forall_mem_cons] at h
    rw [readAnyPrefix, bind_of_ok h.1]
    exact ih h.2

/-- The number is refused, since it might go on behind the point. -/
theorem lexeme_brokenPoint :
    lexeme {} brokenPoint (⟨0, ()⟩ : Standing Unit) = .error (.malformed strayByte) ⟨1, ()⟩ := by
  have hpeek : peek brokenPoint (⟨0, ()⟩ : Standing Unit) = .ok (some '1') ⟨0, ()⟩ :=
    broken_brokenPoint.peek_eq (k := 0) (by decide)
  have hcomment : startsWith (Config.commentPrefix {}).toList brokenPoint
      (⟨0, ()⟩ : Standing Unit) = .ok false ⟨0, ()⟩ :=
    look_eq_ok.2 ⟨congrArg (Option.isSome <$> ·) (prefixEnd_brokenPoint Nat.two_pos [] rfl), rfl⟩
  have hdigits : advanceOver Unicode.isDigit brokenPoint (⟨0, ()⟩ : Standing Unit) =
      .ok () ⟨1, ()⟩ := broken_brokenPoint.advanceOver_eq (k := 0) (by decide) Unicode.isDigit
  have hpair : peek2 brokenPoint (⟨1, ()⟩ : Standing Unit) =
      .error (.malformed strayByte) ⟨1, ()⟩ := broken_brokenPoint.peek2_eq (k := 1) (by decide)
  have hnumber : number brokenPoint (⟨0, ()⟩ : Standing Unit) =
      .error (.malformed strayByte) ⟨1, ()⟩ := by
    rw [number, bind_of_ok hdigits, bind_of_error hpair]
  rw [lexeme, bind_of_ok hpeek]
  refine map_eq_error.2 ?_
  rw [lexemeFrom, if_neg (by decide), bind_of_ok hcomment, if_neg (by decide), if_pos (by decide),
    bind_of_error hnumber]

/-- But what it has left is a lexeme by itself. -/
theorem lexeme_brokenPoint_point :
    lexeme {} brokenPoint (⟨1, ()⟩ : Standing Unit) = .ok (some .punct) ⟨2, ()⟩ := by
  have hpeek : peek brokenPoint (⟨1, ()⟩ : Standing Unit) = .ok (some '.') ⟨1, ()⟩ :=
    broken_brokenPoint.peek_eq (k := 1) (by decide)
  have hcomment : startsWith (Config.commentPrefix {}).toList brokenPoint
      (⟨1, ()⟩ : Standing Unit) = .ok false ⟨1, ()⟩ :=
    look_eq_ok.2 ⟨congrArg (Option.isSome <$> ·)
      (prefixEnd_brokenPoint (k := 1) (by decide) [] rfl), rfl⟩
  have hread (first : Char) (others : List Char) (hfirst : ('.' == first) = false) :
      readPrefix (first :: others) brokenPoint (⟨1, ()⟩ : Standing Unit) = .ok false ⟨1, ()⟩ := by
    have hends := prefixEnd_brokenPoint (k := 1) (by decide) others hfirst
    refine consume_eq_ok.2 ⟨1, ?_, rfl⟩
    change (prefixEnd brokenPoint (byteOffset ['1', '.'] 1) (first :: others) >>= _) = _
    rw [hends]
    rfl
  have hoperator : readAnyPrefix operators brokenPoint (⟨1, ()⟩ : Standing Unit) =
      .ok false ⟨1, ()⟩ := by
    have hother : ∀ list ∈ operators, list ≠ [] ∧ list.head? ≠ some '.' := by decide
    apply readAnyPrefix_of_none
    intro list hmem
    obtain ⟨hne, hhead⟩ := hother list hmem
    obtain ⟨first, others, rfl⟩ := List.exists_cons_of_ne_nil hne
    refine hread first others (beq_eq_false_iff_ne.2 ?_)
    rintro rfl
    exact hhead rfl
  have hpop : popWhere (fun c => return (Config.punctuation {}).toList.contains c) brokenPoint
      (⟨1, ()⟩ : Standing Unit) = .ok (some '.') ⟨2, ()⟩ :=
    broken_brokenPoint.popWhere_inClass (k := 1) (by decide) _
  rw [lexeme, bind_of_ok hpeek]
  refine map_eq_ok.2 ⟨.punct, ?_, rfl⟩
  rw [lexemeFrom, if_neg (by decide), bind_of_ok hcomment, if_neg (by decide), if_neg (by decide),
    if_neg (by decide), if_neg (by decide), bind_of_ok hoperator, if_neg (by decide),
    bind_of_ok hpop]
  rfl

end Lexemes

/-- The first scanner reads the digit, looks two ahead for a fraction and meets the byte that begins
no character; the cursor is left behind the digit. -/
theorem answer_firstTurn_brokenPoint :
    (firstTurn (alone (.scalars brokenPoint) 0)).answer =
      (let session := (firstTurn (alone (.scalars brokenPoint) 0)).session
      let after := (session.scanning 0 "a" { config := {}, finished := true }).place 0 1
      (after, after.reply 0 (.fault (.malformed strayByte)))) := by
  have hkept : keptToken {} (.scalars brokenPoint) ⟨0, ()⟩ = _ :=
    Lexer.nextKept_of_error lexeme_brokenPoint
  have hnext : nextToken { config := {} } (.scalars brokenPoint) ⟨0, ()⟩ =
      ({ config := {}, finished := true }, .error (.malformed strayByte) ⟨1, ()⟩) := by
    rw [nextToken_of_live id rfl rfl, hkept]
    rfl
  have hlookup : (firstTurn (alone (.scalars brokenPoint) 0)).session.scanners.lookup "a" =
      some (0, { config := {} }) := rfl
  exact step_of_next hlookup hnext 0

/-- The second scanner goes on from there, and gives the point as a token. -/
theorem outcome_secondTurn_brokenPoint :
    (secondTurn (alone (.scalars brokenPoint) 0)).outcome = .token (some ⟨.punct, ".", 1, 2⟩) := by
  have hslice : slice brokenPoint 1 2 = .ok ['.'] :=
    broken_brokenPoint.slice_place 1 2 (by decide) (by decide)
  have hkept : keptToken {} (.scalars brokenPoint) ⟨1, ()⟩ = _ :=
    Lexer.nextKept_of_kept lexeme_brokenPoint_point rfl hslice
  have hnext : nextToken { config := {} } (.scalars brokenPoint) ⟨1, ()⟩ =
      ({ config := {}, given := 1 }, .ok (some ⟨.punct, ".", 1, 2⟩) ⟨2, ()⟩) := by
    rw [nextToken_of_live id rfl rfl, hkept]
    rfl
  have hlookup : (secondTurn (alone (.scalars brokenPoint) 0)).session.scanners.lookup "b" =
      some (0, { config := {} }) := by
    rw [secondTurn, answer_firstTurn_brokenPoint]
    rfl
  have hplace : nextToken { config := {} }
      ((secondTurn (alone (.scalars brokenPoint) 0)).session.subjectOf 0)
      ⟨(secondTurn (alone (.scalars brokenPoint) 0)).session.positionOf 0, ()⟩ =
      ({ config := {}, given := 1 }, .ok (some ⟨.punct, ".", 1, 2⟩) ⟨2, ()⟩) := by
    rw [secondTurn, answer_firstTurn_brokenPoint]
    exact hnext
  exact congrArg (Reply.outcome ∘ Prod.snd) (step_of_next hlookup hplace 0)

/-- Behind a failure to decode, the scanner that is asked next gives a token that a single scan does
not. -/
theorem asked_behind_malformed :
    Shared (alone (.ofUtf8 [0x31, 0x2E, 0xFF]) 0) 0 turns 0 {} ["a", "b"] ∧
      tokensOf ((callsOf ["a", "b"] ((alone (.ofUtf8 [0x31, 0x2E, 0xFF]) 0).events 0 turns)).map
        Call.outcome) = [⟨.punct, ".", 1, 2⟩] ∧
      (remainingTokens { config := {} } (.ofUtf8 [0x31, 0x2E, 0xFF]) ⟨0, ()⟩).1 = [] := by
  refine ⟨shared_turns Nat.one_pos id, ?_, ?_⟩
  · have hfirst : (firstTurn (alone (.scalars brokenPoint) 0)).outcome =
        .fault (.malformed strayByte) :=
      congrArg (Reply.outcome ∘ Prod.snd) answer_firstTurn_brokenPoint
    change tokensOf [(firstTurn (alone (.scalars brokenPoint) 0)).outcome,
      (secondTurn (alone (.scalars brokenPoint) 0)).outcome] = _
    rw [hfirst, outcome_secondTurn_brokenPoint]
    rfl
  · have hkept : keptToken {} (.scalars brokenPoint) ⟨0, ()⟩ = _ :=
      Lexer.nextKept_of_error lexeme_brokenPoint
    have hnone : (told (keptToken {} (.scalars brokenPoint) ⟨0, ()⟩)).token? = none := by
      rw [hkept]
      rfl
    exact tokensFrom_of_none rfl 0 hnone

end Scanning.Session
