import Mathlib.Data.List.Basic
import Scanning.Proofs.Session.Tail

namespace Scanning

namespace Session

open Lexer (Token)

variable {session : Session} {start size number : Nat}

/-- No cursor stands in front of an index while a script is obeyed, in its blocks neither. -/
def StaysAhead (start : Nat) (session : Session) (number : Nat) (script : Script) : Prop :=
  ∀ now, During session number script now → now.Ahead start

section StaysAhead

variable {opened : Session} {inner : Nat} {command : Command} {body : Script}
  {rest : List (Option String × Command)}

theorem staysAhead_nil (h : session.Ahead start) :
    StaysAhead start session number (.ofList []) := by
  intro now hduring
  cases hduring
  exact h

/-- A command that opens no block may stand in front of a script that stays ahead, where all cursors
are ahead already. -/
theorem staysAhead_cons (hcommand : ∀ {view ending body}, command ≠ .block view ending body)
    (h : session.Ahead start)
    (hrest : StaysAhead start (session.obey number command).1 number (.ofList rest)) :
    StaysAhead start session number (.ofList ((none, command) :: rest)) := by
  intro now hduring
  rw [Script.ofList] at hduring
  cases hduring with
  | here => exact h
  | inside => exact absurd rfl hcommand
  | later htarget hduring =>
    cases htarget
    exact hrest now hduring
  | skipped htarget => cases htarget

/-- A block stays ahead if its body does and what follows it does. -/
theorem staysAhead_block {view : Option Subject} {ending : Ending}
    (hopen : session.openView number view = .ok (opened, inner)) (h : session.Ahead start)
    (hbody : StaysAhead start opened inner body)
    (hrest : StaysAhead start (session.obey number (.block view ending body)).1 number
      (.ofList rest)) :
    StaysAhead start session number (.ofList ((none, .block view ending body) :: rest)) := by
  intro now hduring
  rw [Script.ofList] at hduring
  cases hduring with
  | here => exact h
  | inside htarget hopen' hduring =>
    cases htarget
    obtain ⟨rfl, rfl⟩ := Prod.mk.inj (Except.ok.inj (hopen.symm.trans hopen'))
    exact hbody now hduring
  | later htarget hduring =>
    cases htarget
    exact hrest now hduring
  | skipped htarget => cases htarget

/-- A session of one cursor from an index on is ahead of it. -/
theorem ahead_alone {subject : Subject} {position : Int} (h : start ≤ position) :
    (alone subject position).Ahead start := by
  intro handle hhandle
  rwa [Array.mem_singleton.1 hhandle]

end StaysAhead

namespace Tailed

variable (h : session.Tailed start size)

include h

/-- A command that lands nowhere in front of an index leaves a session over tails from it. -/
theorem obey (hnumber : number < session.handles.size) {command : Command}
    (hkeeps : command.Keeps size) (hafter : (session.obey number command).1.Ahead start) :
    (session.obey number command).1.Tailed start size where
  start_le := h.start_le
  confined := h.confined.obey number command hkeeps
  sound := (changes_obey h.sound hnumber command).sound h.sound
  ahead := hafter

/-- A block over a subject with the same end is a session over tails too. -/
theorem openView {view : Option Subject} (hview : ∀ subject ∈ view, subject.size = size)
    {opened : Session} {inner : Nat} (hopen : session.openView number view = .ok (opened, inner))
    (hopened : opened.Ahead start) : opened.Tailed start size where
  start_le := h.start_le
  confined := h.confined.openView hview hopen
  sound := (change_openView hopen).1.sound h.sound
  ahead := hopened

end Tailed

mutual

/-- What one command preserves: over the tails it is answered as over the subjects, with offsets
that count from the index. -/
theorem follows_obey {session : Session} {number : Nat} (h : session.Tailed start size)
    (hnumber : number < session.handles.size) :
    (command : Command) → command.Keeps size → command.CountsFrom start →
    (session.obey number command).1.Ahead start →
    (∀ {view ending body opened inner}, command = .block view ending body →
      session.openView number view = .ok (opened, inner) → StaysAhead start opened inner body) →
    Follows start command (session.obey number command)
      ((session.cut start).obey number (command.lowered start))
  | .isAtEnd, _, _, hafter, _ | .remainder, _, _, hafter, _ | .advance, _, _, hafter, _
  | .advanceBy _, _, _, hafter, _ | .advanceWhile _, _, _, hafter, _ | .peek, _, _, hafter, _
  | .peek2, _, _, hafter, _ | .peek3, _, _, hafter, _ | .hasPrefix _, _, _, hafter, _
  | .pop, _, _, hafter, _ | .popElement _, _, _, hafter, _ | .popWhere _, _, _, hafter, _
  | .read _, _, _, hafter, _ | .readWhile _, _, _, hafter, _ => by
    rw [obey] at hafter
    simp only [Command.lowered, obey]
    exact follows_operate h hnumber _ trivial rfl hafter
  | .consumedSince first, _, hcounts, hafter, _ => by
    rw [obey] at hafter
    simp only [Command.lowered, obey]
    exact follows_operate h hnumber _ hcounts rfl hafter
  | .startsWith elements, _, _, hafter, _ | .readPrefix elements, _, _, hafter, _ => by
    rw [obey] at hafter
    simp only [Command.lowered, obey]
    exact follows_operateWith h hnumber _ elements (fun _ => trivial) (fun _ => rfl) rfl hafter
  | .matching use engine, _, _, hafter, _ => by
    rw [obey] at hafter
    simp only [Command.lowered, obey]
    exact follows_useMatch h hnumber use engine hafter
  | .copy name, _, _, hafter, _ => by
    rw [obey] at hafter
    simp only [Command.lowered, obey]
    exact follows_duplicate h hnumber name hafter
  | .block (some view) ending body, hkeeps, hcounts, _, hinside => by
    obtain ⟨hview, hbody⟩ := hkeeps
    obtain ⟨opened, hopen, hopen'⟩ := openView_cut h hnumber (hview view rfl)
    have hahead : StaysAhead start opened session.handles.size body := hinside rfl hopen
    obtain ⟨hchange, hinner⟩ := change_openView hopen
    have htailed := h.openView hview hopen (hahead _ (.here ..))
    obtain ⟨hended, hreplies⟩ := follows_run htailed hinner body hbody hcounts.2 hahead
    have hsize := (changes_run htailed.sound hinner body).size_le
    rw [Command.lowered, obey, obey]
    simp only [Option.map_some, hopen, hopen', hended]
    exact follows_closeView (Nat.lt_of_lt_of_le (Nat.lt_of_lt_of_le hnumber hchange.size_le) hsize)
      (Nat.lt_of_lt_of_le hinner hsize) (hahead _ (during_run ..)) hreplies
  | .scan name fields, _, _, _, _ => by
    simp only [Command.lowered, obey]
    exact follows_scan h hnumber name fields
  | .next name, _, _, hafter, _ => by
    rw [obey] at hafter
    simp only [Command.lowered, obey]
    exact follows_step h hnumber name hafter
  | .scanAll fields, _, _, hafter, _ => by
    rw [obey] at hafter
    simp only [Command.lowered, obey]
    exact follows_scanAll h hnumber fields hafter

/-- What a whole script preserves, with the blocks in it, if it lands nowhere in front of the
index. -/
theorem follows_run {session : Session} {number : Nat} (h : session.Tailed start size)
    (hnumber : number < session.handles.size) :
    (script : Script) → script.Keeps size → script.CountsFrom start →
    StaysAhead start session number script →
    ((session.cut start).run number (script.lowered start)).1 =
        (session.run number script).1.cut start ∧
      SameReplies start script (session.run number script).2
        ((session.cut start).run number (script.lowered start)).2
  | .done, _, _, _ => ⟨rfl, .done⟩
  | .step on command rest, ⟨hkeeps, hkeeps'⟩, ⟨hcounts, hcounts'⟩, hahead => by
    rw [Script.lowered]
    cases htarget : session.target? number on with
    | some target =>
      have hnext := target?_lt h.sound hnumber htarget
      have htailed := h.obey hnext hkeeps (hahead _ (.later htarget (.here ..)))
      have hsize := (changes_obey h.sound hnext command).size_le
      obtain ⟨hsession, hreply⟩ := follows_obey h hnext command hkeeps hcounts htailed.ahead
        (by
          rintro view ending body opened inner rfl hopen now hbody
          exact hahead now (.inside htarget hopen hbody))
      obtain ⟨hended, hreplies⟩ := follows_run htailed (Nat.lt_of_lt_of_le hnumber hsize) rest
        hkeeps' hcounts' fun now hduring => hahead now (.later htarget hduring)
      have htarget' : (session.cut start).target? number on = some target := htarget
      rw [run_step_eq_of_some htarget, run_step_eq_of_some htarget', hsession]
      exact ⟨hended, .step hreply hreplies⟩
    | none =>
      obtain ⟨hended, hreplies⟩ := follows_run h hnumber rest hkeeps' hcounts'
        fun now hduring => hahead now (.skipped htarget hduring)
      have htarget' : (session.cut start).target? number on = none := htarget
      rw [run_step_eq_of_none htarget, run_step_eq_of_none htarget']
      exact ⟨hended, .step (.unknownName command) hreplies⟩

end

/-- How the failures of a command are compared does not depend on where it counts from. -/
theorem Command.sameFault_lowered (command : Command) (start k : Nat) :
    (command.lowered start).SameFault k = command.SameFault k := by
  cases command with
  | _ => rfl

/-- Two failures with one counterpart over the tail are alike. -/
theorem Command.SameFault.alike {command : Command} {fault fault' lowered : Fault}
    (h : command.SameFault start fault lowered) (h' : command.SameFault start fault' lowered) :
    command.SameFault 0 fault fault' := by
  cases command with
  | next | scanAll => exact Lexer.IsLowered.alike h h'
  | _ => exact Eq.trans h (Eq.symm h')

/-- Two outcomes with one counterpart over the tail are alike. -/
theorem SameOutcome.alike {command : Command} {outcome outcome' lowered lowered' : Outcome}
    (h : SameOutcome (command.SameFault start) start outcome lowered)
    (h' : SameOutcome (command.SameFault start) start outcome' lowered')
    (hsame : lowered' = lowered) : SameOutcome (command.SameFault 0) 0 outcome outcome' := by
  cases h with
  | value value =>
    cases h' with
    | value =>
      cases hsame
      exact .value value
    | _ => cases hsame
  | found found =>
    cases h' with
    | found =>
      cases hsame
      exact .found found
    | _ => cases hsame
  | token hgiven =>
    cases h' with
    | token hgiven' =>
      cases hsame
      exact .token (hgiven.alike hgiven')
    | _ => cases hsame
  | fault hfault =>
    cases h' with
    | fault hfault' =>
      cases hsame
      exact .fault (hfault.alike hfault')
    | _ => cases hsame

/-- Tokens with the same offsets in the tail are the same. -/
theorem tokens_alike {tokens tokens' : Option (List Token)}
    (h : tokens'.map (·.map (Token.lowered start)) = tokens.map (·.map (Token.lowered start))) :
    tokens' = tokens.map (·.map (Token.lowered 0)) := by
  have hinjective : Function.Injective (List.map (Token.lowered start)) :=
    List.map_injective_iff.2 fun _ _ => Token.lowered_inj
  obtain rfl := Option.map_injective hinjective h
  simp [Token.lowered_zero]

-- The induction is on how the first reply is the same; the second is then of the same form, since both
-- come down to one reply to one command.
mutual

/-- Two replies with one counterpart over the tail are alike. -/
theorem SameReply.alike {command command' : Command} {reply reply' lowered lowered' : Reply} :
    SameReply start command reply lowered → SameReply start command' reply' lowered' →
    command'.lowered start = command.lowered start → lowered' = lowered →
    SameReply 0 command reply reply'
  | .plain houtcome hposition tokens, h', hcommand, hsame => by
    cases h' with
    | plain houtcome' hposition' tokens' =>
      obtain ⟨houtcomes, hpositions, -, htokens, -⟩ := Reply.mk.inj hsame
      obtain rfl := Option.some.inj hpositions
      rw [← command'.sameFault_lowered start, hcommand, command.sameFault_lowered] at houtcome'
      rw [tokens_alike htokens]
      exact .plain (houtcome.alike houtcome' houtcomes) (hposition.alike hposition') tokens
    | block | unknownName => simp [unknownName] at hsame
  | .block hreplies hposition houtside, h', hcommand, hsame => by
    cases h' with
    | block hreplies' hposition' houtside' =>
      obtain ⟨-, hpositions, -, -, hblock⟩ := Reply.mk.inj hsame
      obtain rfl := Option.some.inj hpositions
      obtain ⟨hinside, rfl⟩ := Prod.mk.inj (Option.some.inj hblock)
      simp only [Command.lowered, Command.block.injEq] at hcommand
      obtain ⟨-, rfl, hbody⟩ := hcommand
      exact .block (hreplies.alike hreplies' hbody hinside) (hposition.alike hposition')
        (houtside.alike houtside')
    | plain | unknownName => simp [unknownName] at hsame
  | .unknownName _, h', _, hsame => by
    cases h' with
    | unknownName => exact .unknownName _
    | plain | block => simp [unknownName] at hsame

/-- Two lists of replies with one counterpart over the tail are alike. -/
theorem SameReplies.alike {script script' : Script}
    {replies replies' lowered lowered' : List Reply} :
    SameReplies start script replies lowered → SameReplies start script' replies' lowered' →
    script'.lowered start = script.lowered start → lowered' = lowered →
    SameReplies 0 script replies replies'
  | .done, h', _, hsame => by
    cases h' with
    | done => exact .done
    | step => cases hsame
  | .step hfirst hrest, h', hscript, hsame => by
    cases h' with
    | done => cases hsame
    | step hfirst' hrest' =>
      obtain ⟨hsame, hsames⟩ := List.cons.inj hsame
      simp only [Script.lowered, Script.step.injEq] at hscript
      obtain ⟨-, hcommand, hscript⟩ := hscript
      exact .step (hfirst.alike hfirst' hcommand hsame) (hrest.alike hrest' hscript hsames)

end

/-- A script that begins at an index of a subject and keeps to what there is from there on: no
cursor ever lands in front of the index, the subject is not changed, and views end where it ends. -/
structure KeepsToTail (subject : Subject) (start : Nat) (script : Script) : Prop where
  start_le : start ≤ subject.size
  keeps : script.Keeps subject.size
  counts : script.CountsFrom start
  ahead : StaysAhead start (alone subject start) 0 script

theorem alone_cut (subject : Subject) (start : Nat) :
    (alone subject start).cut start = alone (subject.cut start) 0 := by
  simp [alone, cut]

theorem start_of_le {subject : Subject} {start : Nat} (h : start ≤ subject.size) :
    Session.start subject (some start) = .ok (alone subject start) := by
  have hcursor : Cursor.at? subject (start : Int) = .ok _ :=
    if_pos ⟨Int.natCast_nonneg start, Int.ofNat_le.2 h⟩
  rw [start_eq, hcursor]
  rfl

/-- A script that keeps to a tail begins over it. -/
theorem KeepsToTail.tailed {subject : Subject} {script : Script}
    (h : KeepsToTail subject start script) : (alone subject start).Tailed start subject.size where
  start_le := h.start_le
  confined := confined_start (start_of_le h.start_le)
  sound := sound_alone subject start
  ahead := h.ahead _ (.here ..)

/-- What is in front of the index where a script begins is invisible. Over the tail of the subject a
cursor at the start goes the same way, and the replies are the same: equal answers and matches,
failures of one kind, and positions, tokens and complaints of the lexer that are counted from the
index. So two subjects that agree from the index on cannot be told apart by scripts that keep to
that: the replies are the same as they stand. -/
theorem run_cut {subject : Subject} {script : Script} (h : KeepsToTail subject start script) :
    (Session.start subject (some start) = .ok (alone subject start) ∧
      Session.start (subject.cut start) (some 0) = .ok (alone (subject.cut start) 0) ∧
      ((alone (subject.cut start) 0).run 0 (script.lowered start)).1 =
        ((alone subject start).run 0 script).1.cut start ∧
      SameReplies start script ((alone subject start).run 0 script).2
        ((alone (subject.cut start) 0).run 0 (script.lowered start)).2) ∧
    ∀ {other : Subject} {script' : Script}, KeepsToTail other start script' →
      other.cut start = subject.cut start → script'.lowered start = script.lowered start →
      SameReplies 0 script ((alone subject start).run 0 script).2
        ((alone other start).run 0 script').2 := by
  obtain ⟨hended, hreplies⟩ := follows_run h.tailed Nat.one_pos script h.keeps h.counts h.ahead
  rw [alone_cut] at hended hreplies
  refine ⟨⟨start_of_le h.start_le, start_of_le (Nat.zero_le _), hended, hreplies⟩, ?_⟩
  intro other script' hother htail hscript
  -- Both runs come down to the one over the tail that the subjects share.
  obtain ⟨-, hreplies'⟩ :=
    follows_run hother.tailed Nat.one_pos script' hother.keeps hother.counts hother.ahead
  rw [alone_cut, htail, hscript] at hreplies'
  exact hreplies.alike hreplies' hscript rfl

/-- A view of UTF-8 in which two bytes are one character, behind any byte. -/
def accented (first : UInt8) : Subject := .ofUtf8 [first, 0xC3, 0xA9, 0x62]

/-- The bytes of the view. -/
def accentedBytes (first : UInt8) : Subject := .ofBytes false [first, 0xC3, 0xA9, 0x62]

/-- The cursor over the view, and one over its bytes. -/
def accentedAside (first : UInt8) (outside inside : Int) : Session where
  subjects := #[accented first, accentedBytes first]
  handles := #[⟨0, outside⟩, ⟨1, inside⟩]

/-- The session of both cursors is ahead of an index if each cursor is. -/
theorem ahead_accentedAside {first : UInt8} {outside inside : Int} (houtside : start ≤ outside)
    (hinside : start ≤ inside) : (accentedAside first outside inside).Ahead start := by
  simp [Ahead, accentedAside, houtside, hinside]

/-- Reads in a block that gives up. -/
def readAside (first : UInt8) : Command :=
  .block (some (accentedBytes first)) true (.ofList [(none, .read 2), (none, .consumedSince 1)])

/-- Over the character and back, and then over its bytes. -/
def toAndFro (first : UInt8) : Script :=
  .ofList [(none, .advance), (none, .advanceBy (-1)), (none, readAside first)]

theorem staysAhead_readAside (first : UInt8) :
    StaysAhead 1 (accentedAside first 1 1) 1
      (.ofList [(none, .read 2), (none, .consumedSince 1)]) := by
  have hread : ((accentedAside first 1 1).obey 1 (.read 2)).1 = accentedAside first 1 3 := rfl
  have hconsumed : ((accentedAside first 1 3).obey 1 (.consumedSince 1)).1 =
      accentedAside first 1 3 := rfl
  refine staysAhead_cons (by simp) (ahead_accentedAside (by decide) (by decide)) ?_
  rw [hread]
  refine staysAhead_cons (by simp) (ahead_accentedAside (by decide) (by decide)) ?_
  rw [hconsumed]
  exact staysAhead_nil (ahead_accentedAside (by decide) (by decide))

/-- Over the character and back no cursor goes in front of it. -/
theorem staysAhead_toAndFro (first : UInt8) :
    StaysAhead 1 (alone (accented first) 1) 0 (toAndFro first) := by
  have hadvance : ((alone (accented first) 1).obey 0 .advance).1 = alone (accented first) 3 := rfl
  have hback : ((alone (accented first) 3).obey 0 (.advanceBy (-1))).1 =
      alone (accented first) 1 := rfl
  have hopen : (alone (accented first) 1).openView 0 (some (accentedBytes first)) =
      .ok (accentedAside first 1 1, 1) := rfl
  have hclosed : ((alone (accented first) 1).obey 0 (readAside first)).1 =
      accentedAside first 3 3 := rfl
  refine staysAhead_cons (by simp) (ahead_alone (by decide)) ?_
  rw [hadvance]
  refine staysAhead_cons (by simp) (ahead_alone (by decide)) ?_
  rw [hback]
  refine staysAhead_block hopen (ahead_alone (by decide)) (staysAhead_readAside first) ?_
  exact staysAhead_nil (hclosed ▸ ahead_accentedAside (by decide) (by decide))

/-- The script keeps to what there is from the character on. -/
theorem keepsToTail_toAndFro (first : UInt8) :
    KeepsToTail (accented first) 1 (toAndFro first) where
  start_le := Nat.succ_le_succ (Nat.zero_le 3)
  keeps := by
    refine ⟨trivial, trivial, ⟨?_, trivial, trivial, trivial⟩, trivial⟩
    rintro _ ⟨⟩
    rfl
  counts := ⟨trivial, trivial, ⟨rfl, trivial, Int.le_refl 1, trivial⟩, trivial⟩
  ahead := staysAhead_toAndFro first

/-- What the first byte is does not show. -/
theorem run_cut_toAndFro :
    KeepsToTail (accented 0x61) 1 (toAndFro 0x61) ∧
      SameReplies 1 (toAndFro 0x61) ((alone (accented 0x61) 1).run 0 (toAndFro 0x61)).2
        ((alone (.ofUtf8 [0xC3, 0xA9, 0x62]) 0).run 0 ((toAndFro 0x61).lowered 1)).2 ∧
      SameReplies 0 (toAndFro 0x61) ((alone (accented 0x61) 1).run 0 (toAndFro 0x61)).2
        ((alone (accented 0x78) 1).run 0 (toAndFro 0x78)).2 := by
  have hkeeps := keepsToTail_toAndFro 0x61
  obtain ⟨⟨-, -, -, hreplies⟩, halike⟩ := run_cut hkeeps
  exact ⟨hkeeps, hreplies, halike (keepsToTail_toAndFro 0x78) rfl rfl⟩

end Session

end Scanning
