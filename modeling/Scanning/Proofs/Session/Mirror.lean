import Mathlib.Logic.Function.Basic
import Scanning.Proofs.Session.Calls
import Scanning.Proofs.Session.Locality

namespace Scanning.Session

open Lexer (Scanner)

/-- A session mirrors some of the cursors of another one: their counterparts are at the same places,
can be called by the same names and have the same scanners. -/
structure Mirrors (kin : List Nat) (image : Nat → Nat) (session other : Session) : Prop where
  sound : session.Sound
  soundOther : other.Sound
  lt : ∀ {number : Nat}, number ∈ kin → number < session.handles.size
  ltOther : ∀ {number : Nat}, number ∈ kin → image number < other.handles.size
  injective : ∀ {number number' : Nat}, number ∈ kin → number' ∈ kin →
    image number = image number' → number = number'
  position : ∀ {number : Nat}, number ∈ kin →
    other.positionOf (image number) = session.positionOf number
  subject : ∀ {number : Nat}, number ∈ kin →
    other.subjectOf (image number) = session.subjectOf number
  names : ∀ {number : Nat} {name : String}, number ∈ kin →
    session.names.lookup name = some number → other.names.lookup name = some (image number)
  scanners : ∀ {number : Nat} {name : String} {scanner : Scanner}, number ∈ kin →
    session.scanners.lookup name = some (number, scanner) →
    other.scanners.lookup name = some (image number, scanner)

/-- A change that some cursors do not notice. -/
structure Leaves (kin : List Nat) (session session' : Session) : Prop where
  size_le : session.handles.size ≤ session'.handles.size
  position : ∀ {number : Nat}, number ∈ kin → session'.positionOf number = session.positionOf number
  subject : ∀ {number : Nat}, number ∈ kin → session'.subjectOf number = session.subjectOf number
  names : ∀ {number : Nat} {name : String}, number ∈ kin →
    session'.names.lookup name = some number → session.names.lookup name = some number
  scanners : ∀ {number : Nat} {name : String} {scanner : Scanner}, number ∈ kin →
    session'.scanners.lookup name = some (number, scanner) →
    session.scanners.lookup name = some (number, scanner)

variable {kin : List Nat} {image : Nat → Nat} {session session' other : Session} {number : Nat}

/-- A session still mirrors another one after something that leaves the cursors of the family as
they are. -/
theorem Mirrors.leaves (h : Mirrors kin image session other) (hleaves : Leaves kin session session')
    (hsound : session'.Sound) : Mirrors kin image session' other where
  sound := hsound
  soundOther := h.soundOther
  lt hkin := Nat.lt_of_lt_of_le (h.lt hkin) hleaves.size_le
  ltOther := h.ltOther
  injective := h.injective
  position hkin := (h.position hkin).trans (hleaves.position hkin).symm
  subject hkin := (h.subject hkin).trans (hleaves.subject hkin).symm
  names hkin hlookup := h.names hkin (hleaves.names hkin hlookup)
  scanners hkin hlookup := h.scanners hkin (hleaves.scanners hkin hlookup)

theorem positionOf_place_of_ne {number' : Nat} (hne : number' ≠ number) (position : Int) :
    (session.place number position).positionOf number' = session.positionOf number' := by
  rw [positionOf, handle_place_of_ne hne]
  rfl

theorem leaves_place (hnumber : number ∉ kin) (position : Int) :
    Leaves kin session (session.place number position) where
  size_le := Nat.le_of_eq (size_handles_place ..).symm
  position hkin := positionOf_place_of_ne (ne_of_mem_of_not_mem hkin hnumber) position
  subject _ := subjectOf_place ..
  names _ hlookup := hlookup
  scanners _ hlookup := hlookup

/-- Placing a cursor of the family is mirrored by placing its image. -/
theorem Mirrors.place (h : Mirrors kin image session other) (hnumber : number ∈ kin)
    (position : Int) :
    Mirrors kin image (session.place number position) (other.place (image number) position) where
  sound := (Change.place number position).sound h.sound
  soundOther := (Change.place (image number) position).sound h.soundOther
  lt hkin := Nat.lt_of_lt_of_eq (h.lt hkin) (size_handles_place ..).symm
  ltOther hkin := Nat.lt_of_lt_of_eq (h.ltOther hkin) (size_handles_place ..).symm
  injective := h.injective
  position {number'} hkin := by
    by_cases hsame : number' = number
    · rw [hsame, positionOf_place (h.lt hnumber), positionOf_place (h.ltOther hnumber)]
    · rw [positionOf_place_of_ne hsame,
        positionOf_place_of_ne fun himage => hsame (h.injective hkin hnumber himage), h.position hkin]
  subject hkin := by
    rw [subjectOf_place, subjectOf_place]
    exact h.subject hkin
  names := h.names
  scanners := h.scanners

theorem leaves_scanning (hnumber : number ∉ kin) (name : String) (scanner : Scanner) :
    Leaves kin session (session.scanning number name scanner) where
  size_le := Nat.le_refl _
  position _ := rfl
  subject _ := rfl
  names _ hlookup := hlookup
  scanners hkin hlookup := by
    rw [scanning, List.lookup_cons] at hlookup
    split at hlookup
    · cases hlookup
      exact absurd hkin hnumber
    · exact hlookup

theorem Mirrors.scanning (h : Mirrors kin image session other) (hnumber : number ∈ kin)
    (name : String) (scanner : Scanner) :
    Mirrors kin image (session.scanning number name scanner)
      (other.scanning (image number) name scanner) where
  sound := (Change.scan (h.lt hnumber) name scanner).sound h.sound
  soundOther := (Change.scan (h.ltOther hnumber) name scanner).sound h.soundOther
  lt := h.lt
  ltOther := h.ltOther
  injective := h.injective
  position := h.position
  subject := h.subject
  names := h.names
  scanners hkin hlookup := by
    rw [Session.scanning, List.lookup_cons] at hlookup ⊢
    split at hlookup
    · cases hlookup
      rfl
    · exact h.scanners hkin hlookup

theorem positionOf_of_push {added : Handle} (h : session'.handles = session.handles.push added)
    (hnumber : number < session.handles.size) :
    session'.positionOf number = session.positionOf number :=
  congrArg Handle.position (handle_of_push h hnumber)

/-- A copy is where the cursor is. -/
theorem handle_copying (session : Session) (copied : Nat) (name : String) :
    (session.copying copied name).handle session.handles.size = session.handle copied :=
  handle_of_push_eq rfl

theorem positionOf_copying_new (session : Session) (copied : Nat) (name : String) :
    (session.copying copied name).positionOf session.handles.size = session.positionOf copied :=
  congrArg Handle.position (handle_copying session copied name)

theorem subjectOf_copying_new (session : Session) (copied : Nat) (name : String) :
    (session.copying copied name).subjectOf session.handles.size = session.subjectOf copied := by
  rw [subjectOf, handle_copying]
  rfl

/-- The name is that of the copy from now on. -/
theorem lookup_copying {copied : Nat} {name name' : String} (hnumber : number < session.handles.size)
    (h : (session.copying copied name).names.lookup name' = some number) :
    name' ≠ name ∧ session.names.lookup name' = some number := by
  rw [copying, List.lookup_cons] at h
  split at h
  · cases h
    exact absurd hnumber (Nat.lt_irrefl _)
  · rename_i hne
    exact ⟨by simpa using hne, h⟩

theorem leaves_copying (hkin : ∀ number ∈ kin, number < session.handles.size) (copied : Nat)
    (name : String) : Leaves kin session (session.copying copied name) where
  size_le := by simp [copying]
  position hnumber := positionOf_of_push rfl (hkin _ hnumber)
  subject hnumber := subjectOf_copying (hkin _ hnumber) copied name
  names hnumber hlookup := (lookup_copying (hkin _ hnumber) hlookup).2
  scanners _ hlookup := hlookup

theorem Mirrors.copying (h : Mirrors kin image session other) (hnumber : number ∈ kin)
    (name : String) :
    Mirrors kin image (session.copying number name) (other.copying (image number) name) where
  sound := (Change.copy (h.lt hnumber) name).sound h.sound
  soundOther := (Change.copy (h.ltOther hnumber) name).sound h.soundOther
  lt hkin := lt_size_push (h.lt hkin) _
  ltOther hkin := lt_size_push (h.ltOther hkin) _
  injective := h.injective
  position hkin := by
    have hposition : (session.copying number name).positionOf _ = _ :=
      positionOf_of_push rfl (h.lt hkin)
    have hother : (other.copying (image number) name).positionOf _ = _ :=
      positionOf_of_push rfl (h.ltOther hkin)
    rw [hposition, hother, h.position hkin]
  subject hkin := by
    rw [subjectOf_copying (h.lt hkin), subjectOf_copying (h.ltOther hkin), h.subject hkin]
  names hkin hlookup := by
    obtain ⟨hne, hlookup⟩ := lookup_copying (h.lt hkin) hlookup
    rw [Session.copying, List.lookup_cons, beq_eq_false_iff_ne.2 hne]
    exact h.names hkin hlookup
  scanners := h.scanners

theorem leaves_viewing (hsound : session.Sound) (hkin : ∀ number ∈ kin, number < session.handles.size)
    (subject : Subject) (position : Int) :
    Leaves kin session (session.viewing subject position).1 where
  size_le := by simp [viewing]
  position hnumber := positionOf_of_push rfl (hkin _ hnumber)
  subject hnumber := subjectOf_viewing (hsound.subjects (hkin _ hnumber)) subject position
  names _ hlookup := hlookup
  scanners _ hlookup := hlookup

/-- The cursor over a view. -/
theorem handle_viewing (session : Session) (subject : Subject) (position : Int) :
    (session.viewing subject position).1.handle session.handles.size =
      ⟨session.subjects.size, position⟩ := handle_of_push_eq rfl

theorem positionOf_viewing (session : Session) (subject : Subject) (position : Int) :
    (session.viewing subject position).1.positionOf session.handles.size = position :=
  congrArg Handle.position (handle_viewing session subject position)

theorem subjectOf_viewing_new (session : Session) (subject : Subject) (position : Int) :
    (session.viewing subject position).1.subjectOf session.handles.size = subject := by
  rw [subjectOf, handle_viewing]
  simp [viewing]

/-- Two blocks over the same view are opened beside each other. -/
theorem Mirrors.viewing (h : Mirrors kin image session other) (subject : Subject) (position : Int) :
    Mirrors (session.handles.size :: kin)
      (Function.update image session.handles.size other.handles.size)
      (session.viewing subject position).1 (other.viewing subject position).1 := by
  -- Each of the fields is that of the old cursors, and is looked at once more for the new one.
  have hold {number : Nat} (hkin : number ∈ kin) :
      Function.update image session.handles.size other.handles.size number = image number :=
    Function.update_of_ne (Nat.ne_of_lt (h.lt hkin)) ..
  have hnew := Function.update_self session.handles.size other.handles.size image
  refine ⟨(Change.view subject position).sound h.sound,
    (Change.view subject position).sound h.soundOther, ?_, ?_, ?_, ?_, ?_, ?_, ?_⟩
  · intro number hkin
    obtain rfl | hkin := List.mem_cons.1 hkin
    · simp [Session.viewing]
    · exact lt_size_push (h.lt hkin) _
  · intro number hkin
    obtain rfl | hkin := List.mem_cons.1 hkin
    · rw [hnew]
      simp [Session.viewing]
    · rw [hold hkin]
      exact lt_size_push (h.ltOther hkin) _
  · intro number number' hkin hkin' himage
    obtain rfl | hkin := List.mem_cons.1 hkin
    · obtain rfl | hkin' := List.mem_cons.1 hkin'
      · rfl
      · rw [hnew, hold hkin'] at himage
        exact absurd himage (Nat.ne_of_gt (h.ltOther hkin'))
    · obtain rfl | hkin' := List.mem_cons.1 hkin'
      · rw [hnew, hold hkin] at himage
        exact absurd himage (Nat.ne_of_lt (h.ltOther hkin))
      · rw [hold hkin, hold hkin'] at himage
        exact h.injective hkin hkin' himage
  · intro number hkin
    obtain rfl | hkin := List.mem_cons.1 hkin
    · rw [hnew, positionOf_viewing, positionOf_viewing]
    · have hposition : (session.viewing subject position).1.positionOf number = _ :=
        positionOf_of_push rfl (h.lt hkin)
      have hother : (other.viewing subject position).1.positionOf (image number) = _ :=
        positionOf_of_push rfl (h.ltOther hkin)
      rw [hold hkin, hposition, hother, h.position hkin]
  · intro number hkin
    obtain rfl | hkin := List.mem_cons.1 hkin
    · rw [hnew, subjectOf_viewing_new, subjectOf_viewing_new]
    · rw [hold hkin, subjectOf_viewing (h.sound.subjects (h.lt hkin)),
        subjectOf_viewing (h.soundOther.subjects (h.ltOther hkin)), h.subject hkin]
  · intro number name hkin hlookup
    obtain rfl | hkin := List.mem_cons.1 hkin
    · exact absurd (h.sound.names hlookup) (Nat.lt_irrefl _)
    · rw [hold hkin]
      exact h.names hkin hlookup
  · intro number name scanner hkin hlookup
    obtain rfl | hkin := List.mem_cons.1 hkin
    · exact absurd (h.sound.scanners hlookup) (Nat.lt_irrefl _)
    · rw [hold hkin]
      exact h.scanners hkin hlookup

/-- The reply about a cursor of the family is the reply about its image. -/
theorem Mirrors.reply (h : Mirrors kin image session other) (hnumber : number ∈ kin)
    (outcome : Outcome) (seen : Option (List Int)) (tokens : Option (List Lexer.Token))
    (block : Option (List Reply × Int)) :
    other.reply (image number) outcome seen tokens block =
      session.reply number outcome seen tokens block := by
  rw [Session.reply, Session.reply, h.position hnumber]

/-- What a command for a single cursor does in the family is mirrored by doing it at the image. -/
theorem Mirrors.act (h : Mirrors kin image session other) (hnumber : number ∈ kin) (act : Act) :
    Mirrors kin image (act.on session number) (act.on other (image number)) := by
  cases act with
  | place position => exact h.place hnumber position
  | scan name scanner => exact h.scanning hnumber name scanner

/-- What a command for another cursor does leaves the family as it is. -/
theorem leaves_act (hnumber : number ∉ kin) (act : Act) :
    Leaves kin session (act.on session number) := by
  cases act with
  | place position => exact leaves_place hnumber position
  | scan name scanner => exact leaves_scanning hnumber name scanner

variable {command : Command}

/-- A command for one of the cursors is answered alike for its counterpart. -/
theorem Mirrors.obey_local (h : Mirrors kin image session other) (hlocal : command.IsLocal)
    (hnumber : number ∈ kin) :
    Mirrors kin image (session.obey number command).1 (other.obey (image number) command).1 ∧
      (other.obey (image number) command).2 = (session.obey number command).2 := by
  obtain ⟨act, hact⟩ := exists_act hlocal
  rw [hact (h.lt hnumber), hact (h.ltOther hnumber), h.subject hnumber, h.position hnumber]
  exact ⟨h.act hnumber _, rfl⟩

/-- A command for any other cursor is not noticed. -/
theorem leaves_obey_local (hlocal : command.IsLocal) (hlt : number < session.handles.size)
    (hnumber : number ∉ kin) : Leaves kin session (session.obey number command).1 := by
  obtain ⟨act, hact⟩ := exists_act hlocal
  rw [hact hlt]
  exact leaves_act hnumber _

theorem duplicate_eq (session : Session) (number : Nat) (name : String) :
    session.duplicate number name =
      match (Cursor.mk (session.subjectOf number) (session.positionOf number)).copy with
      | .error fault => (session, session.reply number (.fault fault))
      | .ok _ =>
        (session.copying number name,
          (session.copying number name).reply number (.value .none)) := rfl

/-- A cursor of the family and its image are copied alike, or refused alike. -/
theorem Mirrors.duplicate (h : Mirrors kin image session other) (hnumber : number ∈ kin)
    (name : String) :
    Mirrors kin image (session.duplicate number name).1 (other.duplicate (image number) name).1 ∧
      (other.duplicate (image number) name).2 = (session.duplicate number name).2 := by
  rw [duplicate_eq, duplicate_eq, h.subject hnumber, h.position hnumber]
  split
  · exact ⟨h, h.reply hnumber ..⟩
  · have hcopied := h.copying hnumber name
    exact ⟨hcopied, hcopied.reply hnumber ..⟩

theorem Leaves.rfl : Leaves kin session session where
  size_le := Nat.le_refl _
  position _ := .refl _
  subject _ := .refl _
  names _ hlookup := hlookup
  scanners _ hlookup := hlookup

theorem Leaves.trans {session'' : Session} (h : Leaves kin session session')
    (h' : Leaves kin session' session'') : Leaves kin session session'' where
  size_le := Nat.le_trans h.size_le h'.size_le
  position hkin := (h'.position hkin).trans (h.position hkin)
  subject hkin := (h'.subject hkin).trans (h.subject hkin)
  names hkin hlookup := h.names hkin (h'.names hkin hlookup)
  scanners hkin hlookup := h.scanners hkin (h'.scanners hkin hlookup)

/-- Copying any cursor leaves the family as it is, whether it succeeds or not. -/
theorem leaves_duplicate (hkin : ∀ number ∈ kin, number < session.handles.size) (copied : Nat)
    (name : String) : Leaves kin session (session.duplicate copied name).1 := by
  rw [duplicate_eq]
  split
  · exact .rfl
  · exact leaves_copying hkin copied name

variable {name : String} {target : Nat} {scanner : Scanner}

/-- Whoever replies, a scanner is asked in the same way. -/
theorem step_fst (session : Session) (number number' : Nat) (name : String) :
    (session.step number name).1 = (session.step number' name).1 := by
  cases hlookup : session.scanners.lookup name with
  | none => rw [step, step, hlookup]
  | some found => rw [step_eq hlookup, step_eq hlookup]

/-- A scanner on one of the cursors is asked, and any of them may reply. -/
theorem Mirrors.step (h : Mirrors kin image session other) (hnumber : number ∈ kin)
    (hlookup : session.scanners.lookup name = some (target, scanner)) (htarget : target ∈ kin) :
    Mirrors kin image (session.step number name).1 (other.step (image number) name).1 ∧
      (other.step (image number) name).2 = (session.step number name).2 := by
  rw [step_eq hlookup, step_eq (h.scanners htarget hlookup), h.subject htarget, h.position htarget]
  have hplaced := (h.scanning htarget name
    (nextToken scanner (session.subjectOf target) ⟨session.positionOf target, ()⟩).1).place htarget
      (Move.landing (nextToken scanner (session.subjectOf target)
        ⟨session.positionOf target, ()⟩).2).position
  exact ⟨hplaced, hplaced.reply hnumber ..⟩

/-- Asking a scanner for its next token leaves the family as it is when the scanner works on another
cursor. -/
theorem leaves_step (htarget : ∀ target scanner,
    session.scanners.lookup name = some (target, scanner) → target ∉ kin) (number : Nat) :
    Leaves kin session (session.step number name).1 := by
  cases hlookup : session.scanners.lookup name with
  | none =>
    rw [Session.step, hlookup]
    exact .rfl
  | some found =>
    have hother := htarget found.1 found.2 hlookup
    rw [step_eq hlookup]
    exact (leaves_scanning hother name _).trans (leaves_place hother _)

/-- A block can be opened in both sessions, or in neither. -/
theorem Mirrors.openView (h : Mirrors kin image session other) (hnumber : number ∈ kin)
    (view : Option Subject) :
    (∃ fault, session.openView number view = .error fault ∧
      other.openView (image number) view = .error fault) ∨
    ∃ subject position, session.openView number view = .ok (session.viewing subject position) ∧
      other.openView (image number) view = .ok (other.viewing subject position) := by
  have hview : other.viewOf (image number) view = session.viewOf number view := by
    cases view with
    | some subject => rfl
    | none => exact congrArg Subject.asUtf8 (h.subject hnumber)
  rw [openView_eq, openView_eq, hview, h.position hnumber]
  cases session.viewOf number view with
  | error fault => exact .inl ⟨fault, rfl, rfl⟩
  | ok subject =>
    cases hcursor : Cursor.at? subject (session.positionOf number) with
    | error fault =>
      refine .inl ⟨fault, ?_, ?_⟩
      all_goals simp [bind, Except.bind, hcursor]
    | ok cursor =>
      refine .inr ⟨subject, cursor.position, ?_, ?_⟩
      all_goals simp [bind, Except.bind, hcursor, pure, Except.pure]

/-- Two blocks are closed beside each other. -/
theorem Mirrors.closeView {inner : Nat} (h : Mirrors kin image session other)
    (hnumber : number ∈ kin) (hinner : inner ∈ kin) (ending : Ending) (replies : List Reply) :
    Mirrors kin image (session.closeView number inner ending replies).1
        (other.closeView (image number) (image inner) ending replies).1 ∧
      (other.closeView (image number) (image inner) ending replies).2 =
        (session.closeView number inner ending replies).2 := by
  rw [Session.closeView, Session.closeView, h.position hnumber, h.position hinner]
  have hplaced := h.place hnumber (session.positionOf inner)
  exact ⟨hplaced, hplaced.reply hnumber ..⟩

end Scanning.Session
