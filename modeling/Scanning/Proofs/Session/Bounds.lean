import Scanning.Session.Run
import Scanning.Proofs.Lexer.Bounds
import Scanning.Proofs.Session.Matching
import Scanning.Proofs.Session.Steps

namespace Scanning

open IndexSpace

theorem Fault.length_of_mapM {α β : Type} {f : α → Except Fault β} {items : List α}
    {found : List β} (h : items.mapM f = .ok found) : found.length = items.length := by
  induction items generalizing found with
  | nil =>
    rw [List.mapM_nil] at h
    cases h
    rfl
  | cons item items ih =>
    rw [List.mapM_cons] at h
    obtain ⟨first, -, h⟩ := Fault.bind_eq_ok.1 h
    obtain ⟨others, hothers, h⟩ := Fault.bind_eq_ok.1 h
    cases h
    exact congrArg (· + 1) (ih hothers)

/-- The UTF-8 of a subject has as many bytes as the subject has elements. -/
theorem Subject.size_of_asUtf8 {subject view : Subject} (h : subject.asUtf8 = .ok view) :
    view.size = subject.size := by
  cases subject with
  | text s => cases h
  | bytes s =>
    cases h
    rfl
  | items s =>
    obtain ⟨data, hdata, h⟩ := Fault.bind_eq_ok.1 h
    cases h
    rw [Array.mapM_eq_mapM_toList] at hdata
    obtain ⟨found, hfound, rfl⟩ := Fault.map_eq_ok.1 hdata
    exact Fault.length_of_mapM hfound
  | scalars view =>
    obtain ⟨chars, -, h⟩ := Fault.bind_eq_ok.1 h
    split at h
    · cases h
      rfl
    · cases h

namespace Session

open Move (landing StaysWithin)

/-- All subjects of a session end at an index, and all cursors are between the start and there. -/
structure Confined (size : Nat) (session : Session) : Prop where
  subjects : ∀ subject ∈ session.subjects, subject.size = size
  handles : ∀ handle ∈ session.handles,
    handle.subject < session.subjects.size ∧ 0 ≤ handle.position ∧ handle.position ≤ size
  nonempty : 0 < session.subjects.size

variable {size : Nat} {session : Session} {number : Nat} {τ α : Type}

namespace Confined

/-- A number that no cursor has stands for the start of the first subject. -/
theorem handle (h : session.Confined size) (number : Nat) :
    (session.handle number).subject < session.subjects.size ∧
      0 ≤ session.positionOf number ∧ session.positionOf number ≤ size := by
  unfold positionOf Session.handle
  cases hfound : session.handles[number]? with
  | none => exact ⟨h.nonempty, Int.le_refl 0, Int.natCast_nonneg size⟩
  | some found => exact h.handles found (Array.mem_of_getElem? hfound)

theorem size_subjectOf (h : session.Confined size) (number : Nat) :
    (session.subjectOf number).size = size := by
  obtain ⟨hsubject, -⟩ := h.handle number
  unfold subjectOf
  rw [Array.getElem?_eq_getElem hsubject]
  exact h.subjects _ (Array.getElem_mem hsubject)

/-- All cursors of a confined session have the same end. -/
theorem endIndex_subjectOf (h : session.Confined size) (number : Nat) :
    (endIndex (session.subjectOf number) : Int) = size :=
  congrArg Nat.cast (h.size_subjectOf number)

/-- The cursors of a confined session stand within their subjects. -/
theorem within (h : session.Confined size) (number : Nat) :
    Within (session.subjectOf number) (session.positionOf number) := by
  obtain ⟨-, hstart, hend⟩ := h.handle number
  exact ⟨hstart, h.endIndex_subjectOf number ▸ hend⟩

/-- A cursor that goes to an index up to the common end leaves the session confined. -/
theorem place (h : session.Confined size) (number : Nat) {position : Int}
    (hposition : 0 ≤ position ∧ position ≤ size) : (session.place number position).Confined size where
  subjects := h.subjects
  handles handle hhandle := by
    obtain hold | rfl := Array.mem_or_eq_of_mem_setIfInBounds hhandle
    · exact h.handles handle hold
    · exact ⟨(h.handle number).1, hposition⟩
  nonempty := h.nonempty

/-- A cursor may go wherever its own subject extends. -/
theorem place_within (h : session.Confined size) {position : Int}
    (hposition : Within (session.subjectOf number) position) :
    (session.place number position).Confined size := by
  obtain ⟨hstart, hend⟩ := hposition
  exact h.place number ⟨hstart, h.endIndex_subjectOf number ▸ hend⟩

/-- A move that stays within its subject leaves the session confined. -/
theorem make (h : session.Confined size) (number : Nat) {move : Move Subject τ α}
    (hmove : StaysWithin (session.subjectOf number) move) (memory : τ) (outcome : α → Outcome) :
    (session.make number memory move outcome).1.Confined size := by
  unfold Session.make
  cases hanswer : move (session.subjectOf number) ⟨session.positionOf number, memory⟩ with
  | ok answer standing => exact h.place_within (hmove.ok (h.within number) hanswer)
  | error fault standing => exact h.place_within (hmove.error (h.within number) hanswer)

theorem operate (h : session.Confined size) (number : Nat)
    (operation : Operation Subject Memory Value) :
    (session.operate number operation).1.Confined size :=
  h.make number (operation.staysWithin (Subject.boundedOffsets _)) _ _

theorem operateWith (h : session.Confined size) (number : Nat) (elements : Subject)
    (operation : List Value → Operation Subject Memory Value) :
    (session.operateWith number elements operation).1.Confined size := by
  unfold Session.operateWith
  split
  · exact h.operate number _
  · exact h

theorem useMatch (h : session.Confined size) (number : Nat) (use : MatchUse)
    (engine : Engine) : (session.useMatch number use engine).1.Confined size := by
  cases use with
  | advance => exact h.make number ((staysWithin_readMatch engine).map _) _ _
  | ask => exact h.make number (Move.staysWithin_look _) _ _
  | read => exact h.make number (staysWithin_readMatch engine) _ _

theorem duplicate (h : session.Confined size) (number : Nat) (name : String) :
    (session.duplicate number name).1.Confined size := by
  unfold Session.duplicate
  dsimp only
  split
  · exact h
  · refine ⟨h.subjects, ?_, h.nonempty⟩
    intro handle hhandle
    obtain hold | rfl := Array.mem_push.1 hhandle
    · exact h.handles handle hold
    · exact h.handle number

/-- What scanners there are does not matter. -/
theorem scanners (h : session.Confined size) (scanners : List (String × Nat × Lexer.Scanner)) :
    Confined size { session with scanners } := ⟨h.subjects, h.handles, h.nonempty⟩

theorem scan (h : session.Confined size) (number : Nat) (name : String)
    (fields : List (String × Record.Raw)) : (session.scan number name fields).1.Confined size := by
  unfold Session.scan
  split
  · exact h
  · exact h.scanners _

end Confined

/-- The next token of a scanner ends within its subject. -/
theorem within_nextToken (scanner : Lexer.Scanner) {subject : Subject} {position : Int}
    (h : Within subject position) :
    Within subject (landing (nextToken scanner subject ⟨position, ()⟩).2).position := by
  cases subject with
  | text characters => exact scanner.within_next h
  | scalars view => exact scanner.within_next h
  | bytes | items => exact h

theorem within_remainingTokens (scanner : Lexer.Scanner) {subject : Subject} {position : Int}
    (h : Within subject position) :
    Within subject (landing (remainingTokens scanner subject ⟨position, ()⟩).2).position := by
  cases subject with
  | text characters => exact scanner.within_drain h
  | scalars view => exact scanner.within_drain h
  | bytes | items => exact h

namespace Confined

theorem step (h : session.Confined size) (number : Nat) (name : String) :
    (session.step number name).1.Confined size := by
  unfold Session.step
  split
  · exact h
  case h_2 target scanner hscanner =>
    have hwithin := within_nextToken scanner (h.within target)
    cases hstep : nextToken scanner (session.subjectOf target) ⟨session.positionOf target, ()⟩ with
    | mk scanner' result =>
      rw [hstep] at hwithin
      cases result with
      | ok token standing => exact (h.scanners _).place_within hwithin
      | error fault standing => exact (h.scanners _).place_within hwithin

theorem scanAll (h : session.Confined size) (number : Nat) (fields : List (String × Record.Raw)) :
    (session.scanAll number fields).1.Confined size := by
  unfold Session.scanAll
  split
  · exact h
  case h_2 config hconfig =>
    have hwithin := within_remainingTokens { config } (h.within number)
    cases hrest : remainingTokens { config } (session.subjectOf number)
        ⟨session.positionOf number, ()⟩ with
    | mk tokens ending =>
      rw [hrest] at hwithin
      cases ending with
      | ok _ standing => exact h.place_within hwithin
      | error fault standing => exact h.place_within hwithin

/-- A new cursor over a view with the same end may begin where another cursor stands. -/
theorem opened (h : session.Confined size) {subject : Subject} (hsize : subject.size = size)
    (number : Nat) :
    Confined size { session with
      subjects := session.subjects.push subject
      handles := session.handles.push ⟨session.subjects.size, session.positionOf number⟩ } := by
  refine ⟨?_, ?_, ?_⟩
  · intro other hother
    obtain hold | rfl := Array.mem_push.1 hother
    · exact h.subjects other hold
    · exact hsize
  · intro handle hhandle
    rw [Array.size_push]
    obtain hold | rfl := Array.mem_push.1 hhandle
    · exact (h.handles handle hold).imp_left (Nat.lt_succ_of_lt ·)
    · exact ⟨Nat.lt_succ_self _, (h.handle number).2⟩
  · rw [Array.size_push]
    exact Nat.succ_pos _

/-- A block over a subject with the same end is opened in a confined session. -/
theorem openView (h : session.Confined size) {number inner : Nat} {view : Option Subject}
    {opened : Session} (hview : ∀ subject ∈ view, subject.size = size)
    (hopen : session.openView number view = .ok (opened, inner)) : opened.Confined size := by
  cases view with
  | some subject =>
    obtain ⟨_, hgiven, hopen⟩ := Fault.bind_eq_ok.1 hopen
    obtain ⟨cursor, hcursor, hopen⟩ := Fault.bind_eq_ok.1 hopen
    obtain ⟨-, rfl⟩ := Cursor.at?_eq_ok hcursor
    cases hgiven
    cases hopen
    exact h.opened (hview subject rfl) number
  | none =>
    obtain ⟨subject, hbytes, hopen⟩ := Fault.bind_eq_ok.1 hopen
    obtain ⟨cursor, hcursor, hopen⟩ := Fault.bind_eq_ok.1 hopen
    obtain ⟨-, rfl⟩ := Cursor.at?_eq_ok hcursor
    cases hopen
    exact h.opened ((Subject.size_of_asUtf8 hbytes).trans (h.size_subjectOf number)) number

/-- Where a block has ended the cursor outside goes where the inner one is, which is within. -/
theorem closeView (h : session.Confined size) (number inner : Nat) (ending : Ending)
    (replies : List Reply) : (session.closeView number inner ending replies).1.Confined size :=
  h.place number (h.handle inner).2

end Confined

mutual

/-- Commands that neither change a subject nor set a position by hand, and that work on views with
the same end only. -/
def Command.Keeps (size : Nat) : Command → Prop
  | .setPosition _ | .append _ | .truncate _ => False
  | .block view _ body => (∀ subject ∈ view, subject.size = size) ∧ body.Keeps size
  | _ => True

/-- Scripts of such commands. -/
def Script.Keeps (size : Nat) : Script → Prop
  | .done => True
  | .step _ command rest => command.Keeps size ∧ rest.Keeps size

end

mutual

/-- What one command preserves: all cursors within subjects with one end. -/
theorem Confined.obey {session : Session} (h : session.Confined size) (number : Nat) :
    (command : Command) → command.Keeps size → (session.obey number command).1.Confined size
  | .isAtEnd, _ | .remainder, _ | .consumedSince _, _ | .advance, _ | .advanceBy _, _
  | .advanceWhile _, _ | .advanceInspecting _, _ | .peek, _ | .peek2, _ | .peek3, _
  | .hasPrefix _, _ | .pop, _ | .popElement _, _ | .popWhere _, _ | .read _, _
  | .readWhile _, _ => by
    rw [Session.obey]
    exact h.operate number _
  | .startsWith _, _ | .readPrefix _, _ => by
    rw [Session.obey]
    exact h.operateWith number _ _
  | .describe, _ => by
    rw [Session.obey]
    exact h.make number (Move.staysWithin_look _) _ _
  | .matching use engine, _ => by
    rw [Session.obey]
    exact h.useMatch number use engine
  | .copy name, _ => by
    rw [Session.obey]
    exact h.duplicate number name
  | .block view ending body, hkeeps => by
    rw [Session.obey]
    obtain ⟨hview, hbody⟩ := hkeeps
    split
    · exact h
    · exact ((h.openView hview ‹_›).run _ body hbody).closeView _ _ _ _
  | .scan name fields, _ => by
    rw [Session.obey]
    exact h.scan number name fields
  | .next name, _ => by
    rw [Session.obey]
    exact h.step number name
  | .scanAll fields, _ => by
    rw [Session.obey]
    exact h.scanAll number fields

/-- What a whole script preserves, with the blocks in it. -/
theorem Confined.run {session : Session} (h : session.Confined size) (number : Nat) :
    (script : Script) → script.Keeps size → (session.run number script).1.Confined size
  | .done, _ => h
  | .step on command rest, ⟨hcommand, hrest⟩ => by
    cases htarget : session.target? number on with
    | some target =>
      rw [run_step_of_some htarget]
      exact (h.obey target command hcommand).run number rest hrest
    | none =>
      rw [run_step_of_none htarget]
      exact h.run number rest hrest

end

theorem Confined.during {session now : Session} {number : Nat} {script : Script}
    (h : session.Confined size) (hkeeps : script.Keeps size)
    (hduring : During session number script now) : now.Confined size := by
  induction hduring with
  | here => exact h
  | inside htarget hopen hbody ih =>
    obtain ⟨⟨hview, hkeeps⟩, -⟩ := hkeeps
    exact ih (h.openView hview hopen) hkeeps
  | later htarget hrest ih => exact ih (h.obey _ _ hkeeps.1) hkeeps.2
  | skipped htarget hrest ih => exact ih h hkeeps.2

/-- Every cursor of a session stands between the start and the end of its subject. -/
def InBounds (session : Session) : Prop :=
  ∀ handle ∈ session.handles, ∃ subject,
    session.subjects[handle.subject]? = some subject ∧ Within subject handle.position

/-- The cursors of a confined session are in bounds. -/
theorem Confined.inBounds (h : session.Confined size) : session.InBounds := by
  intro handle hhandle
  obtain ⟨hsubject, hstart, hend⟩ := h.handles handle hhandle
  have hsize := h.subjects _ (Array.getElem_mem hsubject)
  exact ⟨_, Array.getElem?_eq_getElem hsubject, hstart, by rwa [← hsize] at hend⟩

/-- A session begins confined to its subject. -/
theorem confined_start {subject : Subject} {position : Option Int}
    (h : start subject position = .ok session) : session.Confined subject.size := by
  obtain ⟨cursor, hcursor, h⟩ := Fault.bind_eq_ok.1 h
  obtain ⟨hwithin, rfl⟩ := Cursor.at?_eq_ok hcursor
  cases h
  refine ⟨?_, ?_, Nat.one_pos⟩
  · intro other hother
    rw [Array.mem_singleton.1 hother]
  · intro handle hhandle
    rw [Array.mem_singleton.1 hhandle]
    exact ⟨Nat.one_pos, hwithin⟩

/-- From any position that a cursor may begin at, no command of a script moves a cursor out of its
subject, neither in the session itself nor in the blocks that the script opens. The copy that a test
is given begins at such a position too, so this is also true of what the test does with it. -/
theorem during_inBounds {subject : Subject} {position : Option Int} {session : Session}
    {script : Script} (hstart : start subject position = .ok session)
    (hkeeps : script.Keeps subject.size) :
    During session 0 script (session.run 0 script).1 ∧
      ∀ now, During session 0 script now → now.InBounds :=
  ⟨during_run 0 session script, fun _ hduring =>
    ((confined_start hstart).during hkeeps hduring).inBounds⟩

/-- A script for four elements: a run that fails where they are no UTF-8, a copy that is moved past
the end, and a block over bytes that gives up. -/
def wayward : Script := .ofList [
  (none, .advanceWhile Judgement.all),
  (none, .copy "other"),
  (some "other", .advanceBy 9),
  (none, .block (some (.ofBytes false [1, 2, 3, 4])) true (.ofList [
    (none, .popWhere (Judgement.failAfter 0)),
    (none, .read 3),
    (none, .advance)]))]

/-- Between any two commands of the script the cursors are in bounds. -/
theorem during_inBounds_wayward :
    ∃ session, start (.ofUtf8 [0x61, 0xE2, 0x28, 0xA1]) none = .ok session ∧
      (session.run 0 wayward).1.InBounds := by
  have hstart : start (.ofUtf8 [0x61, 0xE2, 0x28, 0xA1]) none =
      .ok { subjects := #[.ofUtf8 [0x61, 0xE2, 0x28, 0xA1]], handles := #[⟨0, 0⟩] } := rfl
  have hbody : (∀ subject ∈ some (Subject.ofBytes false [1, 2, 3, 4]), subject.size = 4) ∧
      True ∧ True ∧ True ∧ True := by
    refine ⟨?_, trivial, trivial, trivial, trivial⟩
    intro subject hsubject
    cases hsubject
    rfl
  have hkeeps : wayward.Keeps 4 := ⟨trivial, trivial, trivial, hbody, trivial⟩
  obtain ⟨hrun, hbounds⟩ := during_inBounds hstart hkeeps
  exact ⟨_, hstart, hbounds _ hrun⟩

end Session

end Scanning
