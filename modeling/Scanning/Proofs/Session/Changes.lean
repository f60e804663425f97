import Mathlib.Logic.Relation
import Scanning.Session.Run
import Scanning.Proofs.Move.Bounds
import Scanning.Proofs.Session.Steps

namespace Scanning

/-- Texts and views of UTF-8 stay as they are; bytes and lists may be changed in place. -/
def Subject.IsMutable : Subject → Prop
  | .text _ | .scalars _ => False
  | .bytes _ | .items _ => True

/-- Only a subject that may be changed takes one more element, and it may be changed again. -/
theorem Subject.isMutable_of_append {subject changed : Subject} {value : Value}
    (h : subject.append value = .ok changed) : subject.IsMutable ∧ changed.IsMutable := by
  cases subject with
  | text s | scalars view => cases h
  | items s =>
    cases h
    exact ⟨trivial, trivial⟩
  | bytes s =>
    dsimp only [Subject.append] at h
    split at h
    · split at h
      · cases h
        exact ⟨trivial, trivial⟩
      · cases h
    · cases h

/-- Only a subject that may be changed loses elements, and it may be changed again. -/
theorem Subject.isMutable_of_truncate {subject changed : Subject} {bound : Int}
    (h : subject.truncate bound = .ok changed) : subject.IsMutable ∧ changed.IsMutable := by
  cases subject with
  | text s | scalars view => cases h
  | bytes s | items s =>
    cases h
    exact ⟨trivial, trivial⟩

namespace Session

open Lexer (Scanner)
open Relation (ReflTransGen)

/-- The subject that a block works on. -/
def viewOf (session : Session) (number : Nat) : Option Subject → Except Fault Subject
  | some subject => .ok subject
  | none => (session.subjectOf number).asUtf8

/-- A session with a cursor over one more subject, and the number of that cursor. -/
def viewing (session : Session) (subject : Subject) (position : Int) : Session × Nat :=
  ({ session with
    subjects := session.subjects.push subject
    handles := session.handles.push ⟨session.subjects.size, position⟩ },
    session.handles.size)

/-- A session with a copy of a cursor, which gets a name. -/
def copying (session : Session) (number : Nat) (name : String) : Session :=
  { session with
    handles := session.handles.push (session.handle number)
    names := (name, session.handles.size) :: session.names }

/-- A session with a scanner on a cursor, in place of any that had the name before. -/
def scanning (session : Session) (number : Nat) (name : String) (scanner : Scanner) : Session :=
  { session with scanners := (name, number, scanner) :: session.scanners }

/-- One change of a session. -/
inductive Change (session : Session) : Session → Prop where
  | place (number : Nat) (position : Int) : Change session (session.place number position)
  | alter {number : Nat} {subject : Subject} (hmutable : (session.subjectOf number).IsMutable)
      (hchanged : subject.IsMutable) : Change session (session.change number subject)
  | copy {number : Nat} (hnumber : number < session.handles.size) (name : String) :
      Change session (session.copying number name)
  | scan {number : Nat} (hnumber : number < session.handles.size) (name : String)
      (scanner : Scanner) : Change session (session.scanning number name scanner)
  | view (subject : Subject) (position : Int) : Change session (session.viewing subject position).1

/-- Any number of changes, one after the other. -/
abbrev Changes : Session → Session → Prop := ReflTransGen Change

/-- A cursor that there is, over a subject that there is. -/
def HasCursor (session : Session) (number : Nat) : Prop :=
  number < session.handles.size ∧ (session.handle number).subject < session.subjects.size

/-- The subjects of all cursors are there, and so are the cursors that have a name and those that
scanners work on. -/
structure Sound (session : Session) : Prop where
  subjects : ∀ {number : Nat}, number < session.handles.size → session.HasCursor number
  names : ∀ {name : String} {number : Nat}, session.names.lookup name = some number →
    number < session.handles.size
  scanners : ∀ {name : String} {number : Nat} {scanner : Scanner},
    session.scanners.lookup name = some (number, scanner) → number < session.handles.size

/-- A session of one cursor, for which there is no name. -/
def alone (subject : Subject) (position : Int) : Session where
  subjects := #[subject]
  handles := #[⟨0, position⟩]

theorem sound_alone (subject : Subject) (position : Int) : (alone subject position).Sound where
  subjects hnumber := by
    obtain rfl := Nat.lt_one_iff.1 hnumber
    exact ⟨Nat.one_pos, Nat.one_pos⟩
  names h := by cases h
  scanners h := by cases h

/-- A session begins with one cursor, at an index of its subject. -/
theorem start_eq (subject : Subject) (position : Int) :
    start subject (some position) =
      (Cursor.at? subject position).map fun cursor => alone subject cursor.position := by
  rw [start]
  cases h : Cursor.at? subject position with
  | error => simp [h, bind, Except.bind, Except.map]
  | ok => simp [h, bind, Except.bind, Except.map, pure, Except.pure, alone]

variable {session session' : Session} {number : Nat}

@[simp]
theorem size_handles_place (session : Session) (number : Nat) (position : Int) :
    (session.place number position).handles.size = session.handles.size :=
  Array.size_setIfInBounds

theorem handle_place_of_ne {other : Nat} (h : other ≠ number) (position : Int) :
    (session.place number position).handle other = session.handle other := by
  simp [handle, place, Array.getElem?_setIfInBounds_ne h.symm]

/-- A cursor that goes elsewhere stays in its subject. -/
@[simp]
theorem subject_handle_place (session : Session) (number other : Nat) (position : Int) :
    ((session.place number position).handle other).subject = (session.handle other).subject := by
  by_cases h : other = number
  · subst h
    by_cases hother : other < session.handles.size
    · simp [handle, place, hother]
    · simp [handle, place, hother]
  · rw [handle_place_of_ne h]

@[simp]
theorem subjectOf_place (session : Session) (number other : Nat) (position : Int) :
    (session.place number position).subjectOf other = session.subjectOf other := by
  rw [subjectOf, subject_handle_place]
  rfl

/-- Numbers that there were, when one more has been added. -/
theorem lt_size_push {α : Type} {elements : Array α} (h : number < elements.size) (added : α) :
    number < (elements.push added).size :=
  Nat.lt_of_lt_of_eq (Nat.lt_succ_of_lt h) (Array.size_push added).symm

/-- The cursors that there were, when one more has been added. -/
theorem handle_of_push {added : Handle} (h : session'.handles = session.handles.push added)
    (hnumber : number < session.handles.size) : session'.handle number = session.handle number := by
  simp [handle, h, Array.getElem?_push_lt hnumber, hnumber]

/-- The cursor that has been added. -/
theorem handle_of_push_eq {added : Handle} (h : session'.handles = session.handles.push added) :
    session'.handle session.handles.size = added := by
  simp [handle, h]

theorem subjectOf_copying (hnumber : number < session.handles.size) (copied : Nat) (name : String) :
    (session.copying copied name).subjectOf number = session.subjectOf number := by
  have hhandle : (session.copying copied name).handle number = _ := handle_of_push rfl hnumber
  rw [subjectOf, hhandle]
  rfl

theorem subjectOf_viewing (hcursor : session.HasCursor number) (subject : Subject) (position : Int) :
    (session.viewing subject position).1.subjectOf number = session.subjectOf number := by
  have hhandle : (session.viewing subject position).1.handle number = _ :=
    handle_of_push rfl hcursor.1
  rw [subjectOf, hhandle, subjectOf]
  simp [viewing, Array.getElem?_push_lt hcursor.2, hcursor.2]

/-- No change takes a cursor away. -/
theorem Change.size_le (h : Change session session') :
    session.handles.size ≤ session'.handles.size := by
  cases h with
  | place | alter | scan => simp [Session.change, scanning]
  | copy | view => simp [copying, viewing]

/-- A cursor stays in its subject, which stays as it is unless it may be changed; and then it may be
changed again. -/
theorem Change.keeps (h : Change session session') (hcursor : session.HasCursor number) :
    session'.HasCursor number ∧
      (session'.subjectOf number = session.subjectOf number ∨
        (session.subjectOf number).IsMutable ∧ (session'.subjectOf number).IsMutable) := by
  obtain ⟨hnumber, hsubject⟩ := hcursor
  cases h with
  | place other position =>
    refine ⟨⟨?_, ?_⟩, .inl (subjectOf_place ..)⟩
    · rwa [size_handles_place]
    · rwa [subject_handle_place]
  | @alter other subject hmutable hchanged =>
    refine ⟨⟨hnumber, ?_⟩, ?_⟩
    · exact Nat.lt_of_lt_of_eq hsubject Array.size_setIfInBounds.symm
    · by_cases hsame : (session.handle other).subject = (session.handle number).subject
      · refine .inr ⟨?_, ?_⟩
        · rwa [subjectOf, ← hsame]
        · have hnow : (session.change other subject).subjectOf number = subject := by
            change (session.subjects.setIfInBounds (session.handle other).subject
              subject)[(session.handle number).subject]?.getD _ = subject
            rw [hsame, Array.getElem?_setIfInBounds_self_of_lt hsubject]
            rfl
          rwa [hnow]
      · refine .inl ?_
        change (session.subjects.setIfInBounds (session.handle other).subject
          subject)[(session.handle number).subject]?.getD _ = _
        rw [Array.getElem?_setIfInBounds_ne hsame]
        rfl
  | @copy other hother name =>
    have hhandle : (session.copying other name).handle number = _ := handle_of_push rfl hnumber
    refine ⟨⟨?_, ?_⟩, .inl (subjectOf_copying hnumber other name)⟩
    · exact lt_size_push hnumber _
    · rwa [hhandle]
  | scan hother name scanner => exact ⟨⟨hnumber, hsubject⟩, .inl rfl⟩
  | view subject position =>
    have hhandle : (session.viewing subject position).1.handle number = _ :=
      handle_of_push rfl hnumber
    refine ⟨⟨?_, ?_⟩, .inl (subjectOf_viewing ⟨hnumber, hsubject⟩ subject position)⟩
    · exact lt_size_push hnumber _
    · rw [hhandle]
      exact lt_size_push hsubject _

/-- A change leaves a sound session. -/
theorem Change.sound (h : Change session session') (hsound : session.Sound) : session'.Sound := by
  have hsize := h.size_le
  have hsubjects {number : Nat} (hnumber : number < session.handles.size) :=
    (h.keeps (hsound.subjects hnumber)).1
  have hnames {name : String} {number : Nat} (hlookup : session.names.lookup name = some number) :=
    Nat.lt_of_lt_of_le (hsound.names hlookup) hsize
  have hscanners {name : String} {number : Nat} {scanner : Scanner}
      (hlookup : session.scanners.lookup name = some (number, scanner)) :=
    Nat.lt_of_lt_of_le (hsound.scanners hlookup) hsize
  cases h with
  | place other position =>
    refine ⟨fun hnumber => hsubjects ?_, hnames, hscanners⟩
    rwa [size_handles_place] at hnumber
  | alter => exact ⟨hsubjects, hnames, hscanners⟩
  | copy hother =>
    refine ⟨?_, ?_, hscanners⟩
    · intro number hnumber
      obtain hold | rfl := Nat.lt_or_eq_of_le (Nat.le_of_lt_succ (Array.size_push _ ▸ hnumber))
      · exact hsubjects hold
      · refine ⟨hnumber, ?_⟩
        rw [handle_of_push_eq rfl]
        exact (hsound.subjects hother).2
    · intro name number hlookup
      rw [copying, List.lookup_cons] at hlookup
      split at hlookup
      · cases hlookup
        simp [copying]
      · exact hnames hlookup
  | scan hnumber =>
    refine ⟨hsubjects, hnames, ?_⟩
    intro name number scanner hlookup
    rw [scanning, List.lookup_cons] at hlookup
    split at hlookup
    · cases hlookup
      exact hnumber
    · exact hscanners hlookup
  | view subject position =>
    refine ⟨?_, hnames, hscanners⟩
    intro number hnumber
    obtain hold | rfl := Nat.lt_or_eq_of_le (Nat.le_of_lt_succ (Array.size_push _ ▸ hnumber))
    · exact hsubjects hold
    · refine ⟨hnumber, ?_⟩
      rw [handle_of_push_eq rfl]
      exact Nat.lt_of_lt_of_eq (Nat.lt_succ_self _) (Array.size_push _).symm

/-- Of many changes what holds of each. -/
theorem Changes.keeps (h : Changes session session') (hcursor : session.HasCursor number) :
    session'.HasCursor number ∧
      (session'.subjectOf number = session.subjectOf number ∨
        (session.subjectOf number).IsMutable ∧ (session'.subjectOf number).IsMutable) := by
  induction h with
  | refl => exact ⟨hcursor, .inl rfl⟩
  | tail _ hlast ih =>
    obtain ⟨hmiddle, hsame⟩ := ih
    obtain ⟨hcursor', hsame'⟩ := hlast.keeps hmiddle
    refine ⟨hcursor', ?_⟩
    obtain hsame | ⟨hmutable, hmutable'⟩ := hsame
    · rwa [hsame] at hsame'
    · obtain hsame' | ⟨-, hmutable''⟩ := hsame'
      · exact .inr ⟨hmutable, hsame' ▸ hmutable'⟩
      · exact .inr ⟨hmutable, hmutable''⟩

/-- No number of changes takes a cursor away. -/
theorem Changes.size_le (h : Changes session session') :
    session.handles.size ≤ session'.handles.size := by
  induction h with
  | refl => exact Nat.le_refl _
  | tail _ hlast ih => exact Nat.le_trans ih hlast.size_le

/-- Any number of changes leave a sound session. -/
theorem Changes.sound (h : Changes session session') (hsound : session.Sound) :
    session'.Sound := by
  induction h with
  | refl => exact hsound
  | tail _ hlast ih => exact hlast.sound ih

section Commands

variable {τ α : Type}

/-- A move is one change: its cursor goes elsewhere. -/
theorem change_make (session : Session) (number : Nat) (memory : τ) (move : Move Subject τ α)
    (outcome : α → Outcome) : Change session (session.make number memory move outcome).1 := by
  unfold make
  split
  · exact .place number _
  · exact .place number _

theorem change_operate (session : Session) (number : Nat)
    (operation : Operation Subject Memory Value) :
    Change session (session.operate number operation).1 := change_make session number _ _ _

theorem changes_operateWith (session : Session) (number : Nat) (elements : Subject)
    (operation : List Value → Operation Subject Memory Value) :
    Changes session (session.operateWith number elements operation).1 := by
  unfold operateWith
  split
  · exact .single (change_operate session number _)
  · exact .refl

theorem change_useMatch (session : Session) (number : Nat) (use : MatchUse)
    (engine : Engine) : Change session (session.useMatch number use engine).1 := by
  cases use with
  | advance | ask | read => exact change_make session number _ _ _

/-- A copy that is made is one change. -/
theorem changes_duplicate (hnumber : number < session.handles.size) (name : String) :
    Changes session (session.duplicate number name).1 := by
  unfold duplicate
  dsimp only
  split
  · exact .refl
  · exact .single (.copy hnumber name)

theorem changes_alter {changed : Except Fault Subject}
    (h : ∀ {subject}, changed = .ok subject →
      (session.subjectOf number).IsMutable ∧ subject.IsMutable) :
    Changes session (session.alter number changed).1 := by
  unfold alter
  split
  · obtain ⟨hmutable, hchanged⟩ := h rfl
    exact .single (.alter hmutable hchanged)
  · exact .refl

theorem changes_scan (hnumber : number < session.handles.size) (name : String)
    (fields : List (String × Record.Raw)) :
    Changes session (session.scan number name fields).1 := by
  unfold scan
  split
  · exact .refl
  · exact .single (.scan hnumber name _)

/-- To ask a scanner is to put it back and to move its cursor. -/
theorem changes_step (hsound : session.Sound) (number : Nat) (name : String) :
    Changes session (session.step number name).1 := by
  unfold step
  split
  · exact .refl
  case h_2 target scanner hlookup =>
    have hscanner : Change session _ := .scan (hsound.scanners hlookup) name
      (nextToken scanner (session.subjectOf target) ⟨session.positionOf target, ()⟩).1
    dsimp only
    split
    · exact .tail (.single hscanner) (.place target _)
    · exact .tail (.single hscanner) (.place target _)

theorem changes_scanAll (session : Session) (number : Nat) (fields : List (String × Record.Raw)) :
    Changes session (session.scanAll number fields).1 := by
  unfold scanAll
  split
  · exact .refl
  · dsimp only
    split
    · exact .single (.place number _)
    · exact .single (.place number _)

/-- A block is opened over a subject at the index where its cursor stands, which has to be in it. -/
theorem openView_eq (session : Session) (number : Nat) (view : Option Subject) :
    session.openView number view = (do
      let subject ← session.viewOf number view
      let inner ← Cursor.at? subject (session.positionOf number)
      return session.viewing subject inner.position) := by
  cases view with
  | some _ | none => rfl

/-- A block is opened by adding the cursor over its view. -/
theorem openView_eq_ok {view : Option Subject} {opened : Session × Nat}
    (h : session.openView number view = .ok opened) :
    ∃ subject, opened = session.viewing subject (session.positionOf number) := by
  rw [openView_eq] at h
  obtain ⟨subject, -, h⟩ := Fault.bind_eq_ok.1 h
  obtain ⟨cursor, hcursor, h⟩ := Fault.bind_eq_ok.1 h
  obtain ⟨-, rfl⟩ := Cursor.at?_eq_ok hcursor
  cases h
  exact ⟨subject, rfl⟩

/-- A block that is opened adds one cursor over one subject. -/
theorem change_openView {view : Option Subject} {opened : Session} {inner : Nat}
    (h : session.openView number view = .ok (opened, inner)) :
    Change session opened ∧ inner < opened.handles.size := by
  obtain ⟨subject, hopened⟩ := openView_eq_ok h
  obtain ⟨rfl, rfl⟩ := Prod.mk.inj hopened
  refine ⟨.view subject _, ?_⟩
  simp

/-- A command is for a cursor that there is. -/
theorem target?_lt (hsound : session.Sound) (hnumber : number < session.handles.size)
    {on : Option String} {target : Nat} (h : session.target? number on = some target) :
    target < session.handles.size := by
  cases on with
  | none =>
    cases h
    exact hnumber
  | some name => exact hsound.names h

end Commands

mutual

/-- Every command comes down to changes, one after the other. One case for each command. -/
theorem changes_obey {session : Session} {number : Nat} (hsound : session.Sound)
    (hnumber : number < session.handles.size) :
    (command : Command) → Changes session (session.obey number command).1
  | .isAtEnd | .remainder | .consumedSince _ | .advance | .advanceBy _ | .advanceWhile _
  | .advanceInspecting _ | .peek | .peek2 | .peek3 | .hasPrefix _ | .pop | .popElement _
  | .popWhere _ | .read _ | .readWhile _ => by
    rw [obey]
    exact .single (change_operate session number _)
  | .startsWith _ | .readPrefix _ => by
    rw [obey]
    exact changes_operateWith session number _ _
  | .describe => by
    rw [obey]
    exact .single (change_make session number _ _ _)
  | .matching use engine => by
    rw [obey]
    exact .single (change_useMatch session number use engine)
  | .copy name => by
    rw [obey]
    exact changes_duplicate hnumber name
  | .setPosition position => by
    rw [obey]
    exact .single (.place number position)
  | .append value => by
    rw [obey]
    exact changes_alter Subject.isMutable_of_append
  | .truncate bound => by
    rw [obey]
    exact changes_alter Subject.isMutable_of_truncate
  | .block view ending body => by
    rw [obey]
    split
    · exact .refl
    case h_2 opened inner hopen =>
      obtain ⟨hchange, hinner⟩ := change_openView hopen
      have hbody := changes_run (hchange.sound hsound) hinner body
      exact (ReflTransGen.head hchange hbody).tail (.place number _)
  | .scan name fields => by
    rw [obey]
    exact changes_scan hnumber name fields
  | .next name => by
    rw [obey]
    exact changes_step hsound number name
  | .scanAll fields => by
    rw [obey]
    exact changes_scanAll session number fields

/-- Every script comes down to changes, with the blocks in it. -/
theorem changes_run {session : Session} {number : Nat} (hsound : session.Sound)
    (hnumber : number < session.handles.size) :
    (script : Script) → Changes session (session.run number script).1
  | .done => .refl
  | .step on command rest => by
    cases htarget : session.target? number on with
    | some target =>
      have hcommand := changes_obey hsound (target?_lt hsound hnumber htarget) command
      have hsize := hcommand.size_le
      rw [run_step_of_some htarget]
      exact hcommand.trans (changes_run (hcommand.sound hsound) (by omega) rest)
    | none =>
      rw [run_step_of_none htarget]
      exact changes_run hsound hnumber rest

end

end Session

end Scanning
