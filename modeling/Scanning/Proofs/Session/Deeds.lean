import Scanning.Proofs.Session.Mirror

namespace Scanning.Session

mutual

/-- Commands that leave all subjects as they are, also in the blocks that they open. -/
def Command.KeepsSubjects : Command → Prop
  | .append _ | .truncate _ => False
  | .block _ _ body => body.KeepsSubjects
  | _ => True

def Script.KeepsSubjects : Script → Prop
  | .done => True
  | .step _ command rest => command.KeepsSubjects ∧ rest.KeepsSubjects

end

/-- Where a cursor of a run has begun, and the name that it was given if it is a copy. -/
structure Birth where
  name : Option String
  subject : Subject
  position : Int

/-- A session of that cursor alone. -/
def Birth.alone (birth : Birth) : Session :=
  { Session.alone birth.subject birth.position with names := birth.name.toList.map (·, 0) }

/-- What was asked of a cursor, and the reply. -/
structure Deed where
  on : Option String
  command : Command
  reply : Reply

/-- The same again, one after the other. -/
def Deed.script (deeds : List Deed) : Script :=
  .ofList (deeds.map fun deed => (deed.on, deed.command))

/-- A cursor in the course of a run: where it has begun, once it has, and the numbers of the cursors
that count as this one, which are itself and those inside its blocks. -/
structure Family where
  birth : Option Birth := none
  kin : List Nat := []

mutual

/-- What a command has the cursor `who` do, while `current` is the innermost cursor of its blocks. Of
a block of its own the rest of the body is left out, and so the ending is told; of a block of any
other cursor the body counts. -/
def deedsIn (who current : Nat) (family : Family) (session : Session) (number : Nat)
    (on : Option String) : Command → Family × List Deed
  | .copy name =>
    let copied := session.duplicate number name
    if session.handles.size = who ∧ who < copied.1.handles.size then
      (⟨some ⟨some name, session.subjectOf number, session.positionOf number⟩, [who]⟩, [])
    else (family, if number ∈ family.kin then [⟨on, .copy name, copied.2⟩] else [])
  | .next name =>
    match session.scanners.lookup name with
    | some (target, _) =>
      (family,
        if target ∈ family.kin then [⟨none, .next name, (session.step current name).2⟩] else [])
    | none => (family, [])
  | .block view ending body =>
    match session.openView number view with
    | .error fault =>
      (family, if number ∈ family.kin then
        [⟨on, .block view ending .done, session.reply number (.fault fault)⟩] else [])
    | .ok (opened, inner) =>
      if number ∈ family.kin then
        let ended := opened.run inner body
        let (later, done) :=
          deeds who inner { family with kin := inner :: family.kin } opened inner body
        let told : Ending := fun _ => ending ended.2
        (later, [⟨on, .block view told (Deed.script done),
          (ended.1.closeView number inner told (done.map Deed.reply)).2⟩])
      else deeds who current family opened inner body
  | command =>
    (family, if number ∈ family.kin then [⟨on, command, (session.obey number command).2⟩] else [])

/-- What a script has a cursor do. -/
def deeds (who current : Nat) (family : Family) (session : Session) (number : Nat) :
    Script → Family × List Deed
  | .done => (family, [])
  | .step on command rest =>
    match session.target? number on with
    | some target =>
      let (now, first) := deedsIn who current family session target on command
      let (later, others) := deeds who current now (session.obey target command).1 number rest
      (later, first ++ others)
    | none => deeds who current family session number rest

end

/-- The life of one of the cursors that there are in the course of a run. The first is there from the
start, and the others begin as copies. -/
def lifeOf (session : Session) (who : Nat) (script : Script) : Family × List Deed :=
  let family : Family :=
    if who = 0 then ⟨some ⟨none, session.subjectOf 0, session.positionOf 0⟩, [0]⟩ else {}
  deeds who who family session 0 script

variable {who current number target : Nat} {family : Family} {image image' : Nat → Nat}
  {session other after : Session} {on : Option String} {command : Command}

/-- A script made of two lists of deeds runs as the first list and then, from the session that it
leaves, as the second; the replies of the two stand one after the other. -/
theorem run_script_append (session : Session) (number : Nat) (first others : List Deed) :
    session.run number (Deed.script (first ++ others)) =
      (((session.run number (Deed.script first)).1.run number (Deed.script others)).1,
        (session.run number (Deed.script first)).2 ++
          ((session.run number (Deed.script first)).1.run number (Deed.script others)).2) := by
  induction first generalizing session with
  | nil => rfl
  | cons deed first ih =>
    have hscript (rest : List Deed) :
        Deed.script (deed :: rest) = .step deed.on deed.command (Deed.script rest) := rfl
    rw [List.cons_append, hscript, hscript]
    cases htarget : session.target? number deed.on with
    | some target =>
      rw [run_step_eq_of_some htarget, run_step_eq_of_some htarget, ih]
      rfl
    | none =>
      rw [run_step_eq_of_none htarget, run_step_eq_of_none htarget, ih]
      rfl

theorem run_script_singleton {deed : Deed} (h : session.target? number deed.on = some target) :
    session.run number (Deed.script [deed]) =
      ((session.obey target deed.command).1, [(session.obey target deed.command).2]) := by
  have hscript : Deed.script [deed] = .step deed.on deed.command .done := rfl
  rw [hscript, run_step_eq_of_some h]
  rfl

/-- Part of a run, of which another session tells what a cursor does there: it mirrors the family of the
cursor and is given the same commands. Only cursors that are new come into the family. -/
structure Retold (family : Family) (image : Nat → Nat) (current : Nat) (session other : Session)
    (life : Family × List Deed) (after : Session) (image' : Nat → Nat) : Prop where
  mirrors : Mirrors life.1.kin image' after (other.run (image current) (Deed.script life.2)).1
  replies : (other.run (image current) (Deed.script life.2)).2 = life.2.map Deed.reply
  kept : ∀ {number : Nat}, number ∈ family.kin → number ∈ life.1.kin ∧ image' number = image number
  fresh : ∀ {number : Nat}, number ∈ life.1.kin →
    number ∈ family.kin ∨ session.handles.size ≤ number
  birth_eq : life.1.birth = family.birth

/-- What the cursor has no part in. -/
theorem Retold.none (h : Mirrors family.kin image session other)
    (hleaves : Leaves family.kin session after) (hsound : after.Sound) :
    Retold family image current session other (family, []) after image where
  mirrors := h.leaves hleaves hsound
  replies := rfl
  kept hnumber := ⟨hnumber, rfl⟩
  fresh hnumber := .inl hnumber
  birth_eq := rfl

/-- A command for one of the cursors in the family. -/
theorem Retold.one {reply : Reply} (htarget : other.target? (image current) on = some target)
    (hmirrors : Mirrors family.kin image after (other.obey target command).1)
    (hreply : (other.obey target command).2 = reply) :
    Retold family image current session other (family, [⟨on, command, reply⟩]) after image where
  mirrors := by rwa [run_script_singleton htarget]
  replies := by rw [run_script_singleton htarget, hreply, List.map_singleton]
  kept hnumber := ⟨hnumber, rfl⟩
  fresh hnumber := .inl hnumber
  birth_eq := rfl

/-- Two parts of a run, one after the other. -/
theorem Retold.append {between : Session} {first last : Family × List Deed} {image'' : Nat → Nat}
    (hcurrent : current ∈ family.kin) (hsize : session.handles.size ≤ between.handles.size)
    (hfirst : Retold family image current session other first between image')
    (hlast : Retold first.1 image' current between
      (other.run (image current) (Deed.script first.2)).1 last after image'') :
    Retold family image current session other (last.1, first.2 ++ last.2) after image'' := by
  have himage := (hfirst.kept hcurrent).2
  have hmirrors := hlast.mirrors
  have hreplies := hlast.replies
  rw [himage] at hmirrors hreplies
  refine ⟨?_, ?_, ?_, ?_, hlast.birth_eq.trans hfirst.birth_eq⟩
  · rwa [run_script_append]
  · rw [run_script_append, List.map_append, hfirst.replies, hreplies]
  · intro number hnumber
    obtain ⟨hmiddle, himage⟩ := hfirst.kept hnumber
    obtain ⟨hlater, himage'⟩ := hlast.kept hmiddle
    exact ⟨hlater, himage'.trans himage⟩
  · intro number hnumber
    obtain hmiddle | hnew := hlast.fresh hnumber
    · exact hfirst.fresh hmiddle
    · exact .inr (Nat.le_trans hsize hnew)

/-- A command for a single cursor is one deed, with the reply that the session gives, where it is
asked of the family, and none where it is asked of another cursor. -/
theorem deedsIn_local (hlocal : command.IsLocal) :
    deedsIn who current family session number on command =
      (family,
        if number ∈ family.kin then [⟨on, command, (session.obey number command).2⟩] else []) := by
  cases command with
  | copy | append | truncate | block | next => cases hlocal
  | _ => simp only [deedsIn]

/-- The deeds of a script are those in its first command, as long as there is the cursor that this
is asked of, and then those in the rest from the session that it leaves. -/
theorem deeds_step_of_some {rest : Script} (h : session.target? number on = some target) :
    deeds who current family session number (.step on command rest) =
      ((deeds who current (deedsIn who current family session target on command).1
          (session.obey target command).1 number rest).1,
        (deedsIn who current family session target on command).2 ++
          (deeds who current (deedsIn who current family session target on command).1
            (session.obey target command).1 number rest).2) := by
  rw [deeds]
  simp only [h]

theorem deeds_step_of_none {rest : Script} (h : session.target? number on = none) :
    deeds who current family session number (.step on command rest) =
      deeds who current family session number rest := by
  rw [deeds]
  simp only [h]

section Command

variable (h : Mirrors family.kin image session other) (hlt : number < session.handles.size)
  (htarget : number ∈ family.kin → other.target? (image current) on = some (image number))

include h hlt htarget

/-- A command for a single cursor is retold by itself. -/
theorem retold_local (hlocal : command.IsLocal) :
    Retold family image current session other
      (deedsIn who current family session number on command) (session.obey number command).1
      image := by
  rw [deedsIn_local hlocal]
  split
  case isTrue hnumber =>
    obtain ⟨hmirrors, hreply⟩ := h.obey_local hlocal hnumber
    exact .one (htarget hnumber) hmirrors hreply
  case isFalse hnumber =>
    exact .none h (leaves_obey_local hlocal hlt hnumber)
      ((changes_obey h.sound hlt command).sound h.sound)

/-- Making a copy, once the cursor that the life is of is there already, is retold by making a
copy. -/
theorem retold_copy (hwho : who < session.handles.size) (name : String) :
    Retold family image current session other
      (deedsIn who current family session number on (.copy name))
      (session.obey number (.copy name)).1 image := by
  rw [deedsIn, if_neg fun hborn => absurd hborn.1 (Nat.ne_of_gt hwho), obey]
  split
  case isTrue hnumber =>
    obtain ⟨hmirrors, hreply⟩ := h.duplicate hnumber name
    refine .one (htarget hnumber) ?_ ?_
    · rwa [obey]
    · rwa [obey]
  case isFalse hnumber =>
    exact .none h (leaves_duplicate (fun _ => h.lt) number name)
      ((changes_duplicate hlt name).sound h.sound)

end Command

/-- A scanner replies through the innermost cursor of the family. -/
theorem retold_next (h : Mirrors family.kin image session other) (hcurrent : current ∈ family.kin)
    (name : String) :
    Retold family image current session other
      (deedsIn who current family session number on (.next name))
      (session.obey number (.next name)).1 image := by
  have hsound := (changes_step h.sound number name).sound h.sound
  rw [deedsIn, obey]
  cases hlookup : session.scanners.lookup name with
  | none =>
    refine .none h (leaves_step ?_ number) hsound
    intro target scanner hfound
    cases hlookup.symm.trans hfound
  | some found =>
    obtain ⟨target, scanner⟩ := found
    dsimp only
    split
    case isTrue htarget =>
      obtain ⟨hmirrors, hreply⟩ := h.step hcurrent hlookup htarget
      rw [step_fst session number current name]
      refine .one rfl ?_ ?_
      · rwa [obey]
      · rwa [obey]
    case isFalse htarget =>
      refine .none h (leaves_step ?_ number) hsound
      intro target' scanner' hfound
      cases hlookup.symm.trans hfound
      exact htarget

section Block

variable {view : Option Subject} {ending : Ending} {body : Script} {opened : Session} {inner : Nat}

/-- A block of the family that cannot be opened is one deed, whatever its body would have done. -/
theorem deedsIn_block_refused {fault : Fault} (hopen : session.openView number view = .error fault) :
    deedsIn who current family session number on (.block view ending body) =
      (family, if number ∈ family.kin then
        [⟨on, .block view ending .done, session.reply number (.fault fault)⟩] else []) := by
  rw [deedsIn]
  simp only [hopen]

/-- What a block of another cursor has the family do is what its body has it do. -/
theorem deedsIn_block_aside (hopen : session.openView number view = .ok (opened, inner))
    (hnumber : number ∉ family.kin) :
    deedsIn who current family session number on (.block view ending body) =
      deeds who current family opened inner body := by
  rw [deedsIn]
  simp only [hopen]
  rw [if_neg hnumber]

/-- The deeds in a block of the family, while the cursor inside it is one of them. -/
abbrev inside (who : Nat) (family : Family) (opened : Session) (inner : Nat) (body : Script) :
    Family × List Deed :=
  deeds who inner { family with kin := inner :: family.kin } opened inner body

/-- A block of the family that can be opened is one deed, whose body is made of the deeds in the
block and whose ending is that of the run. -/
theorem deedsIn_block_own (hopen : session.openView number view = .ok (opened, inner))
    (hnumber : number ∈ family.kin) :
    deedsIn who current family session number on (.block view ending body) =
      ((inside who family opened inner body).1,
        [⟨on, .block view (fun _ => ending (opened.run inner body).2)
            (Deed.script (inside who family opened inner body).2),
          ((opened.run inner body).1.closeView number inner
            (fun _ => ending (opened.run inner body).2)
            ((inside who family opened inner body).2.map Deed.reply)).2⟩]) := by
  rw [deedsIn]
  simp only [hopen]
  rw [if_pos hnumber]

/-- A block that can be opened runs its body at the cursor inside and is then closed. -/
theorem obey_block_of_open (hopen : session.openView number view = .ok (opened, inner)) :
    session.obey number (.block view ending body) =
      (opened.run inner body).1.closeView number inner ending (opened.run inner body).2 := by
  rw [obey, hopen]

/-- A block of a cursor outside the family: its body counts, and at its end a cursor moves that is not
in the family. -/
theorem retold_block_aside (hlt : number < session.handles.size) (hnumber : number ∉ family.kin)
    (hopen : session.openView number view = .ok (opened, inner))
    (hbody : Retold family image current opened other (deeds who current family opened inner body)
      (opened.run inner body).1 image') :
    Retold family image current session other
      (deedsIn who current family session number on (.block view ending body))
      (session.obey number (.block view ending body)).1 image' := by
  have hsize := (change_openView hopen).1.size_le
  have hout : number ∉ (deeds who current family opened inner body).1.kin := by
    intro hmem
    obtain hold | hnew := hbody.fresh hmem
    · exact hnumber hold
    · omega
  rw [deedsIn_block_aside hopen hnumber, obey_block_of_open hopen]
  exact { hbody with
    mirrors := hbody.mirrors.leaves (leaves_place hout _)
      ((Change.place _ _).sound hbody.mirrors.sound)
    fresh := fun hmem => (hbody.fresh hmem).imp_right (Nat.le_trans hsize) }

/-- A block of a cursor in the family, which gets a new member. -/
theorem retold_block_own {openedOther : Session} {imageInside : Nat → Nat}
    (hnumber : number ∈ family.kin)
    (htarget : other.target? (image current) on = some (image number))
    (hopen : session.openView number view = .ok (opened, inner))
    (hopenOther : other.openView (image number) view = .ok (openedOther, imageInside inner))
    (hold : ∀ {number : Nat}, number ∈ family.kin → imageInside number = image number)
    (hinner : session.handles.size ≤ inner)
    (hbody : Retold { family with kin := inner :: family.kin } imageInside inner opened openedOther
      (inside who family opened inner body) (opened.run inner body).1 image') :
    Retold family image current session other
      (deedsIn who current family session number on (.block view ending body))
      (session.obey number (.block view ending body)).1 image' := by
  have hkept {number' : Nat} (hmem : number' ∈ family.kin) :
      number' ∈ (inside who family opened inner body).1.kin ∧ image' number' = image number' := by
    obtain ⟨hlater, himage⟩ := hbody.kept (List.mem_cons_of_mem _ hmem)
    exact ⟨hlater, himage.trans (hold hmem)⟩
  obtain ⟨hnumber', himage⟩ := hkept hnumber
  obtain ⟨hinner', himageInner⟩ := hbody.kept List.mem_cons_self
  obtain ⟨hmirrors, hreply⟩ := hbody.mirrors.closeView hnumber' hinner'
    (fun _ => ending (opened.run inner body).2)
    ((inside who family opened inner body).2.map Deed.reply)
  rw [himage, himageInner, ← hbody.replies] at hmirrors hreply
  rw [deedsIn_block_own hopen hnumber, obey_block_of_open hopen, ← hbody.replies]
  refine ⟨?_, ?_, hkept, ?_, hbody.birth_eq⟩
  · rw [run_script_singleton htarget, obey_block_of_open hopenOther]
    exact hmirrors
  · rw [run_script_singleton htarget, obey_block_of_open hopenOther, List.map_singleton, hreply]
  · intro number' hmem
    obtain hfamily | hadded := hbody.fresh hmem
    · obtain rfl | hfamily := List.mem_cons.1 hfamily
      · exact .inr hinner
      · exact .inl hfamily
    · exact .inr (Nat.le_trans (change_openView hopen).1.size_le hadded)

end Block

mutual

/-- Obeying a command that leaves all subjects as they are is retold by the deeds of the family in
it. A block is retold by the run of its body, which is a smaller script. -/
theorem retold_obey {family : Family} {image : Nat → Nat} {session other : Session}
    {number who current : Nat} {on : Option String} (h : Mirrors family.kin image session other)
    (hlt : number < session.handles.size) (hwho : who < session.handles.size)
    (hcurrent : current ∈ family.kin)
    (htarget : number ∈ family.kin → other.target? (image current) on = some (image number)) :
    (command : Command) → command.KeepsSubjects → ∃ image',
      Retold family image current session other
        (deedsIn who current family session number on command) (session.obey number command).1
        image'
  | .append _, hkeeps | .truncate _, hkeeps => hkeeps.elim
  | .copy name, _ => ⟨image, retold_copy h hlt htarget hwho name⟩
  | .next name, _ => ⟨image, retold_next h hcurrent name⟩
  | .block view ending body, hkeeps => by
    by_cases hnumber : number ∈ family.kin
    · obtain ⟨fault, hopen, hother⟩ | ⟨subject, position, hopen, hother⟩ := h.openView hnumber view
      · rw [deedsIn_block_refused hopen, if_pos hnumber, obey_block_of_error hopen]
        refine ⟨image, .one (htarget hnumber) ?_ ?_⟩
        · rwa [obey_block_of_error hother]
        · rw [obey_block_of_error hother]
          exact h.reply hnumber ..
      · -- The cursor inside counts as one of the family for as long as the block is open.
        have hviewing := h.viewing subject position
        have hinner : session.handles.size ∈ session.handles.size :: family.kin :=
          List.mem_cons_self
        have hlater := hviewing.lt hinner
        have hfamily : Mirrors ({ family with kin := session.handles.size :: family.kin } :
            Family).kin _ _ _ := hviewing
        obtain ⟨image', hbody⟩ := retold_run hfamily hlater (Nat.lt_trans hwho hlater) hinner
          (fun _ => rfl) body hkeeps
        have hnew := Function.update_self session.handles.size other.handles.size image
        refine ⟨image', retold_block_own hnumber (htarget hnumber) hopen ?_ ?_ (Nat.le_refl _) hbody⟩
        · rw [hnew]
          exact hother
        · intro number' hmem
          exact Function.update_of_ne (Nat.ne_of_lt (h.lt hmem)) ..
    · cases hopen : session.openView number view with
      | error fault =>
        rw [deedsIn_block_refused hopen, if_neg hnumber, obey_block_of_error hopen]
        exact ⟨image, .none h .rfl h.sound⟩
      | ok opened =>
        -- The body may still call a cursor of the family by its name.
        obtain ⟨opened, inner⟩ := opened
        obtain ⟨hopened, hinner⟩ := change_openView hopen
        obtain ⟨subject, heq⟩ := openView_eq_ok hopen
        obtain ⟨rfl, rfl⟩ := Prod.mk.inj heq
        have hleaves := leaves_viewing h.sound (fun _ => h.lt) subject (session.positionOf number)
        have hnew : session.handles.size ∈ family.kin → session.handles.size = current :=
          fun hmem => absurd (h.lt hmem) (Nat.lt_irrefl _)
        obtain ⟨image', hbody⟩ := retold_run (h.leaves hleaves (hopened.sound h.sound)) hinner
          (Nat.lt_trans hwho hinner) hcurrent hnew body hkeeps
        exact ⟨image', retold_block_aside hlt hnumber hopen hbody⟩
  | .isAtEnd, _ | .remainder, _ | .consumedSince _, _ | .advance, _ | .advanceBy _, _
  | .advanceWhile _, _ | .advanceInspecting _, _ | .peek, _ | .peek2, _ | .peek3, _
  | .hasPrefix _, _ | .startsWith _, _ | .pop, _ | .popElement _, _ | .popWhere _, _ | .read _, _
  | .readPrefix _, _ | .readWhile _, _ | .describe, _ | .matching _ _, _ | .setPosition _, _
  | .scan _ _, _ | .scanAll _, _ => ⟨image, retold_local h hlt htarget trivial⟩

/-- A run that leaves all subjects as they are is retold by the deeds of the family, one command of
the script after the other. -/
theorem retold_run {family : Family} {image : Nat → Nat} {session other : Session}
    {number who current : Nat} (h : Mirrors family.kin image session other)
    (hlt : number < session.handles.size) (hwho : who < session.handles.size)
    (hcurrent : current ∈ family.kin) (hnumber : number ∈ family.kin → number = current) :
    (script : Script) → script.KeepsSubjects → ∃ image',
      Retold family image current session other
        (deeds who current family session number script) (session.run number script).1 image'
  | .done, _ => ⟨image, by
    rw [deeds]
    exact .none h .rfl h.sound⟩
  | .step on command rest, ⟨hcommand, hrest⟩ => by
    cases htarget : session.target? number on with
    | none =>
      rw [deeds_step_of_none htarget, run_step_of_none htarget]
      exact retold_run h hlt hwho hcurrent hnumber rest hrest
    | some target =>
      have htargetLt := target?_lt h.sound hlt htarget
      have hother : target ∈ family.kin →
          other.target? (image current) on = some (image target) := by
        intro hmem
        cases on with
        | none =>
          cases htarget
          rw [hnumber hmem]
          rfl
        | some name => exact h.names hmem htarget
      obtain ⟨image', hfirst⟩ := retold_obey h htargetLt hwho hcurrent hother command hcommand
      have hsize := (changes_obey h.sound htargetLt command).size_le
      have hnumber' : number ∈ (deedsIn who current family session target on command).1.kin →
          number = current := by
        intro hmem
        obtain hold | hnew := hfirst.fresh hmem
        · exact hnumber hold
        · omega
      obtain ⟨image'', hlast⟩ := retold_run hfirst.mirrors (Nat.lt_of_lt_of_le hlt hsize)
        (Nat.lt_of_lt_of_le hwho hsize) (hfirst.kept hcurrent).1 hnumber' rest hrest
      rw [deeds_step_of_some htarget, run_step_of_some htarget]
      exact ⟨image'', hfirst.append hcurrent hsize hlast⟩

end

end Scanning.Session
