import Scanning.Proofs.Session.Deeds

namespace Scanning.Session

variable {who number : Nat} {image image' : Nat → Nat} {session after : Session}
  {on : Option String} {command : Command}

/-- A part of a run in which a cursor has begun: from there on a session of its own tells what it
does. -/
structure Begun (who : Nat) (session : Session) (life : Family × List Deed) (after : Session)
    (birth : Birth) (image : Nat → Nat) : Prop where
  birth_eq : life.1.birth = some birth
  mirrors : Mirrors life.1.kin image after (birth.alone.run 0 (Deed.script life.2)).1
  replies : (birth.alone.run 0 (Deed.script life.2)).2 = life.2.map Deed.reply
  mem : who ∈ life.1.kin
  image_eq : image who = 0
  fresh : ∀ {number : Nat}, number ∈ life.1.kin → session.handles.size ≤ number

/-- A part of a run before which a cursor has not begun. Unless it begins there, no copy has got its
number. -/
inductive Awaited (who : Nat) (session : Session) (life : Family × List Deed) (after : Session) :
    Prop where
  | waiting (hlife : life = ({}, []))
      (hnames : ∀ {name : String}, (name, who) ∈ after.names → (name, who) ∈ session.names)
  | begun {birth : Birth} {image : Nat → Nat} (hbegun : Begun who session life after birth image)

/-- What follows on a beginning. -/
theorem Begun.append {between : Session} {first last : Family × List Deed} {birth : Birth}
    (hfirst : Begun who session first between birth image)
    (hsize : session.handles.size ≤ between.handles.size)
    (hlast : Retold first.1 image who between (birth.alone.run 0 (Deed.script first.2)).1 last after
      image') :
    Begun who session (last.1, first.2 ++ last.2) after birth image' := by
  have hmirrors := hlast.mirrors
  have hreplies := hlast.replies
  rw [hfirst.image_eq] at hmirrors hreplies
  obtain ⟨hwho, himage⟩ := hlast.kept hfirst.mem
  refine ⟨hlast.birth_eq.trans hfirst.birth_eq, ?_, ?_, hwho, himage.trans hfirst.image_eq, ?_⟩
  · rwa [run_script_append]
  · rw [run_script_append, hfirst.replies, hreplies, List.map_append]
  · intro number hmem
    obtain hold | hnew := hlast.fresh hmem
    · exact hfirst.fresh hold
    · exact Nat.le_trans hsize hnew

/-- What follows on a part in which nothing has begun. -/
theorem Awaited.after_waiting {between : Session} {life : Family × List Deed}
    (hsize : session.handles.size ≤ between.handles.size)
    (hnames : ∀ {name : String}, (name, who) ∈ between.names → (name, who) ∈ session.names)
    (h : Awaited who between life after) : Awaited who session life after := by
  cases h with
  | waiting hlife hlater => exact .waiting hlife fun hmem => hnames (hlater hmem)
  | begun hbegun =>
    exact .begun { hbegun with fresh := fun hmem => Nat.le_trans hsize (hbegun.fresh hmem) }

theorem sound_birth (birth : Birth) : birth.alone.Sound where
  subjects := (sound_alone birth.subject birth.position).subjects
  names {name number} hlookup := by
    rw [Birth.alone] at hlookup
    cases hname : birth.name with
    | none =>
      rw [hname] at hlookup
      cases hlookup
    | some known =>
      rw [hname, Option.toList_some, List.map_singleton, List.lookup_cons] at hlookup
      split at hlookup
      · cases hlookup
        exact Nat.one_pos
      · cases hlookup
  scanners hlookup := by cases hlookup

/-- A copy begins its life where it is made. -/
theorem mirrors_copying (hsound : session.Sound) (hlt : number < session.handles.size)
    (name : String) :
    Mirrors [session.handles.size] (fun _ => 0) (session.copying number name)
      (Birth.mk (some name) (session.subjectOf number) (session.positionOf number)).alone where
  sound := (Change.copy hlt name).sound hsound
  soundOther := sound_birth _
  lt hmem := by
    rw [List.mem_singleton.1 hmem, copying, Array.size_push]
    exact Nat.lt_succ_self _
  ltOther _ := Nat.one_pos
  injective hmem hmem' _ := (List.mem_singleton.1 hmem).trans (List.mem_singleton.1 hmem').symm
  position hmem := by
    rw [List.mem_singleton.1 hmem, positionOf_copying_new]
    rfl
  subject hmem := by
    rw [List.mem_singleton.1 hmem, subjectOf_copying_new]
    rfl
  names {number' name'} hmem hlookup := by
    rw [List.mem_singleton.1 hmem, copying, List.lookup_cons] at hlookup
    rw [Birth.alone, Option.toList_some, List.map_singleton, List.lookup_cons]
    split at hlookup
    · rfl
    · exact absurd (hsound.names hlookup) (Nat.lt_irrefl _)
  scanners hmem hlookup := by
    rw [List.mem_singleton.1 hmem] at hlookup
    exact absurd (hsound.scanners hlookup) (Nat.lt_irrefl _)

theorem not_mem_kin : number ∉ ({} : Family).kin := List.not_mem_nil

/-- A command that adds no name. -/
theorem Awaited.of_names {life : Family × List Deed} (hlife : life = ({}, []))
    (hnames : after.names = session.names) : Awaited who session life after :=
  .waiting hlife fun hmem => hnames ▸ hmem

/-- A command that looks only at the subject and the position of its cursor begins no other one. -/
theorem awaited_local (hlocal : command.IsLocal) (hlt : number < session.handles.size) :
    Awaited who session (deedsIn who who {} session number on command)
      (session.obey number command).1 := by
  refine .of_names ?_ ?_
  · rw [deedsIn_local hlocal, if_neg not_mem_kin]
  · obtain ⟨act, hact⟩ := exists_act hlocal
    rw [hact hlt]
    cases (act (session.subjectOf number) (session.positionOf number)).1 with
    | place | scan => rfl

theorem awaited_next (name : String) :
    Awaited who session (deedsIn who who {} session number on (.next name))
      (session.obey number (.next name)).1 := by
  rw [deedsIn, obey]
  cases hlookup : session.scanners.lookup name with
  | none =>
    refine .of_names rfl ?_
    rw [step, hlookup]
  | some found =>
    refine .of_names ?_ ?_
    · dsimp only
      rw [if_neg not_mem_kin]
    · rw [step_eq hlookup]
      rfl

/-- A copy is the beginning of the cursor that has the next number. -/
theorem awaited_copy (hsound : session.Sound) (hlt : number < session.handles.size)
    (name : String) :
    Awaited who session (deedsIn who who {} session number on (.copy name))
      (session.obey number (.copy name)).1 := by
  cases hcopy : (Cursor.mk (session.subjectOf number) (session.positionOf number)).copy with
  | error fault =>
    have hcopied : (session.duplicate number name).1 = session := by
      rw [duplicate_eq, hcopy]
    rw [deedsIn, obey, hcopied, if_neg (by omega), if_neg not_mem_kin]
    exact .of_names rfl rfl
  | ok cursor =>
    have hcopied : (session.duplicate number name).1 = session.copying number name := by
      rw [duplicate_eq, hcopy]
    have hsize : (session.copying number name).handles.size = session.handles.size + 1 :=
      Array.size_push _
    rw [deedsIn, obey, hcopied, hsize]
    by_cases hwho : session.handles.size = who
    · subst hwho
      rw [if_pos ⟨rfl, Nat.lt_succ_self _⟩]
      refine .begun ⟨rfl, mirrors_copying hsound hlt name, rfl, List.mem_singleton_self _, rfl, ?_⟩
      intro number' hmem
      exact Nat.le_of_eq (List.mem_singleton.1 hmem).symm
    · rw [if_neg fun hborn => hwho hborn.1, if_neg not_mem_kin]
      refine .waiting rfl fun {name'} hmem => ?_
      obtain hnew | hold := List.mem_cons.1 hmem
      · exact absurd (Prod.mk.inj hnew).2.symm hwho
      · exact hold

/-- A block of a cursor that has nothing to do with the one that is awaited. -/
theorem awaited_block_aside {view : Option Subject} {ending : Ending} {body : Script}
    {opened : Session} {inner : Nat} (hlt : number < session.handles.size)
    (hopen : session.openView number view = .ok (opened, inner))
    (hbody : Awaited who opened (deeds who who {} opened inner body) (opened.run inner body).1) :
    Awaited who session (deedsIn who who {} session number on (.block view ending body))
      (session.obey number (.block view ending body)).1 := by
  obtain ⟨subject, heq⟩ := openView_eq_ok hopen
  obtain ⟨rfl, rfl⟩ := Prod.mk.inj heq
  have hsize := (change_openView hopen).1.size_le
  rw [deedsIn_block_aside hopen not_mem_kin, obey_block_of_open hopen]
  cases hbody with
  | waiting hlife hnames => exact .waiting hlife hnames
  | begun hbegun =>
    have hout : number ∉ (deeds who who {} (session.viewing subject (session.positionOf number)).1
        session.handles.size body).1.kin := by
      intro hmem
      have hfresh := hbegun.fresh hmem
      omega
    exact .begun { hbegun with
      mirrors := hbegun.mirrors.leaves (leaves_place hout _)
        ((Change.place _ _).sound hbegun.mirrors.sound)
      fresh := fun hmem => Nat.le_trans hsize (hbegun.fresh hmem) }

mutual

/-- Whatever is obeyed, a cursor that is waited for is still to begin or has begun a session of its
own that tells what it does. One case for each command. -/
theorem awaited_obey {session : Session} {number who : Nat} {on : Option String}
    (hsound : session.Sound) (hlt : number < session.handles.size) :
    (command : Command) → command.KeepsSubjects →
      Awaited who session (deedsIn who who {} session number on command)
        (session.obey number command).1
  | .append _, hkeeps | .truncate _, hkeeps => hkeeps.elim
  | .copy name, _ => awaited_copy hsound hlt name
  | .next name, _ => awaited_next name
  | .block view ending body, hkeeps => by
    cases hopen : session.openView number view with
    | error fault =>
      rw [deedsIn_block_refused hopen, if_neg not_mem_kin, obey_block_of_error hopen]
      exact .of_names rfl rfl
    | ok opened =>
      obtain ⟨opened, inner⟩ := opened
      obtain ⟨hopened, hinner⟩ := change_openView hopen
      exact awaited_block_aside hlt hopen
        (awaited_run (hopened.sound hsound) hinner body hkeeps)
  | .isAtEnd, _ | .remainder, _ | .consumedSince _, _ | .advance, _ | .advanceBy _, _
  | .advanceWhile _, _ | .advanceInspecting _, _ | .peek, _ | .peek2, _ | .peek3, _
  | .hasPrefix _, _ | .startsWith _, _ | .pop, _ | .popElement _, _ | .popWhere _, _ | .read _, _
  | .readPrefix _, _ | .readWhile _, _ | .describe, _ | .matching _ _, _ | .setPosition _, _
  | .scan _ _, _ | .scanAll _, _ => awaited_local trivial hlt

/-- Over a whole script, with its blocks, a cursor that is waited for is still to begin or has begun
a session of its own. -/
theorem awaited_run {session : Session} {number who : Nat} (hsound : session.Sound)
    (hlt : number < session.handles.size) :
    (script : Script) → script.KeepsSubjects →
      Awaited who session (deeds who who {} session number script) (session.run number script).1
  | .done, _ => by
    rw [deeds]
    exact .of_names rfl rfl
  | .step on command rest, ⟨hcommand, hrest⟩ => by
    cases htarget : session.target? number on with
    | none =>
      rw [deeds_step_of_none htarget, run_step_of_none htarget]
      exact awaited_run hsound hlt rest hrest
    | some target =>
      have htargetLt := target?_lt hsound hlt htarget
      have hchanges := changes_obey hsound htargetLt command
      have hsize := hchanges.size_le
      have hltNow := Nat.lt_of_lt_of_le hlt hsize
      rw [deeds_step_of_some htarget, run_step_of_some htarget]
      cases awaited_obey hsound htargetLt command hcommand with
      | waiting hlife hnames =>
        rw [hlife]
        exact (awaited_run (hchanges.sound hsound) hltNow rest hrest).after_waiting hsize hnames
      | begun hbegun =>
        have hnumber : number ∈ (deedsIn who who {} session target on command).1.kin →
            number = who := by
          intro hmem
          have hfresh := hbegun.fresh hmem
          omega
        obtain ⟨image', hlast⟩ := retold_run hbegun.mirrors hltNow (hbegun.mirrors.lt hbegun.mem)
          hbegun.mem hnumber rest hrest
        exact .begun (hbegun.append hsize hlast)

end

/-- A session mirrors itself. -/
theorem Mirrors.refl {kin : List Nat} (hsound : session.Sound)
    (hkin : ∀ number ∈ kin, number < session.handles.size) : Mirrors kin id session session where
  sound := hsound
  soundOther := hsound
  lt hmem := hkin _ hmem
  ltOther hmem := hkin _ hmem
  injective _ _ himage := himage
  position _ := rfl
  subject _ := rfl
  names _ hlookup := hlookup
  scanners _ hlookup := hlookup

/-- The life of each cursor in a run that changes no subject, the first one or a copy of any, is that
of a session of this cursor alone, begun where the cursor has begun: the same commands have the same
replies and lead to the same position. -/
theorem lifeOf_alone {subject : Subject} {start? : Option Int}
    (hstart : start subject start? = .ok session) {script : Script}
    (hkeeps : script.KeepsSubjects)
    (hwho : who = 0 ∨ ∃ name, (name, who) ∈ (session.run 0 script).1.names) :
    ∃ birth, (session.lifeOf who script).1.birth = some birth ∧
      (birth.alone.run 0 (Deed.script (session.lifeOf who script).2)).2 =
        (session.lifeOf who script).2.map Deed.reply ∧
      (birth.alone.run 0 (Deed.script (session.lifeOf who script).2)).1.positionOf 0 =
        (session.run 0 script).1.positionOf who := by
  obtain ⟨position, rfl⟩ : ∃ position, session = Session.alone subject position := by
    have hstart' : start subject (some (start?.getD 0)) = .ok session := hstart
    rw [start_eq] at hstart'
    obtain ⟨cursor, -, rfl⟩ := Fault.map_eq_ok.1 hstart'
    exact ⟨cursor.position, rfl⟩
  have hsound := sound_alone subject position
  have hlt : 0 < (Session.alone subject position).handles.size := Nat.one_pos
  by_cases hfirst : who = 0
  · subst hfirst
    have hmem : 0 ∈ [0] := List.mem_singleton_self 0
    have hmirrors : Mirrors [0] id (Session.alone subject position)
        (Session.alone subject position) := .refl hsound fun _ hmem => by
      rw [List.mem_singleton.1 hmem]
      exact hlt
    have hfamily : Mirrors (Family.mk (some ⟨none, subject, position⟩) [0]).kin id
      (Session.alone subject position) (Session.alone subject position) := hmirrors
    obtain ⟨image', hlife⟩ := retold_run hfamily hlt hlt hmem (fun _ => rfl) script hkeeps
    obtain ⟨hwho', himage⟩ := hlife.kept hmem
    refine ⟨_, hlife.birth_eq, hlife.replies, ?_⟩
    have hposition := hlife.mirrors.position hwho'
    rwa [himage] at hposition
  · -- Nothing is told of a copy until it is made, and from then on as of the first cursor.
    have hlife : (Session.alone subject position).lifeOf who script =
        deeds who who {} (Session.alone subject position) 0 script := by
      rw [lifeOf, if_neg hfirst]
    obtain ⟨name, hname⟩ := hwho.resolve_left hfirst
    rw [hlife]
    cases awaited_run hsound hlt script hkeeps with
    | waiting _ hnames => exact absurd (hnames hname) List.not_mem_nil
    | begun hbegun =>
      refine ⟨_, hbegun.birth_eq, hbegun.replies, ?_⟩
      have hposition := hbegun.mirrors.position hbegun.mem
      rwa [hbegun.image_eq] at hposition

/-- A copy with a scanner, which is called while the first cursor moves and inside a block on the copy,
and a copy of the cursor in that block. -/
def intertwined : Script := .ofList [
  (none, .pop),
  (none, .copy "a"),
  (some "a", .scan "tokens" []),
  (none, .advance),
  (none, .next "tokens"),
  (some "a", .block (some (.ofText "12 34 56")) true (.ofList [
    (none, .pop),
    (some "a", .advanceBy 99),
    (none, .copy "b"),
    (some "b", .next "tokens")])),
  (some "a", .read 1),
  (some "b", .pop),
  (none, .pop)]

/-- A cursor at the start of a text. -/
def reader : Session := Session.alone (.ofText "x one two") 0

/-- The copy begins behind the first character, and has four commands. -/
theorem lifeOf_alone_intertwined :
    start (.ofText "x one two") none = .ok reader ∧ intertwined.KeepsSubjects ∧
      ("a", 1) ∈ (reader.run 0 intertwined).1.names ∧
      ∃ birth, (reader.lifeOf 1 intertwined).1.birth = some birth ∧ birth.position = 1 ∧
        (reader.lifeOf 1 intertwined).2.length = 4 ∧
        (birth.alone.run 0 (Deed.script (reader.lifeOf 1 intertwined).2)).2 =
          (reader.lifeOf 1 intertwined).2.map Deed.reply ∧
        (birth.alone.run 0 (Deed.script (reader.lifeOf 1 intertwined).2)).1.positionOf 0 = 7 := by
  have hstart : start (.ofText "x one two") none = .ok reader := rfl
  have hkeeps : intertwined.KeepsSubjects := by
    simp [intertwined, Script.ofList, Script.KeepsSubjects, Command.KeepsSubjects]
  have hname : ("a", 1) ∈ (reader.run 0 intertwined).1.names := by decide +kernel
  have hbegins : (reader.lifeOf 1 intertwined).1.birth.map Birth.position = some 1 := by
    decide +kernel
  have hlength : (reader.lifeOf 1 intertwined).2.length = 4 := by decide +kernel
  have hends : (reader.run 0 intertwined).1.positionOf 1 = 7 := by decide +kernel
  obtain ⟨birth, hbirth, hreplies, hposition⟩ := lifeOf_alone hstart hkeeps (.inr ⟨"a", hname⟩)
  rw [hbirth] at hbegins
  exact ⟨hstart, hkeeps, hname, birth, hbirth, Option.some.inj hbegins, hlength, hreplies,
    hposition.trans hends⟩

end Scanning.Session
