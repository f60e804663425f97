import Scanning.Proofs.Session.Changes
import Scanning.Proofs.Session.Failure

namespace Scanning.Session

open Lexer (Scanner)

theorem lookup_map_snd {α β γ : Type} [BEq α] (f : β → γ) (key : α) (pairs : List (α × β)) :
    (pairs.map (Prod.map id f)).lookup key = (pairs.lookup key).map f := by
  induction pairs with
  | nil => rfl
  | cons pair rest ih =>
    rw [List.map_cons, List.lookup_cons, List.lookup_cons]
    dsimp only [Prod.map, id_eq]
    split
    · rfl
    · exact ih

/-- A session with another one beside it, whose cursors and subjects are numbered on. The names of the
guest come first. -/
def hosting (host guest : Session) : Session where
  subjects := host.subjects ++ guest.subjects
  handles := host.handles ++ guest.handles.map fun handle =>
    ⟨host.subjects.size + handle.subject, handle.position⟩
  names := guest.names.map (Prod.map id (host.handles.size + ·)) ++ host.names
  scanners := guest.scanners.map (Prod.map id (Prod.map (host.handles.size + ·) id)) ++ host.scanners

mutual

/-- Commands that take tokens from none of a session's scanners, also in the blocks that they
open. -/
def Command.Avoids (host : Session) : Command → Prop
  | .next name => host.scanners.lookup name = none
  | .block _ _ body => body.Avoids host
  | _ => True

/-- Scripts of such commands, none of which is for a named cursor of the session. -/
def Script.Avoids (host : Session) : Script → Prop
  | .done => True
  | .step on command rest =>
    (∀ name ∈ on, host.names.lookup name = none) ∧ command.Avoids host ∧ rest.Avoids host

end

section Hosting

variable {host guest : Session} {number : Nat}

/-- The cursors of a guest come behind those of its host. -/
theorem size_handles_hosting (host guest : Session) :
    (host.hosting guest).handles.size = host.handles.size + guest.handles.size := by
  simp [hosting]

theorem handle_hosting (hnumber : number < guest.handles.size) :
    (host.hosting guest).handle (host.handles.size + number) =
      ⟨host.subjects.size + (guest.handle number).subject, guest.positionOf number⟩ := by
  simp [handle, positionOf, hosting, hnumber]

/-- A guest's cursor stands where it does alone. -/
theorem positionOf_hosting (hnumber : number < guest.handles.size) :
    (host.hosting guest).positionOf (host.handles.size + number) = guest.positionOf number := by
  rw [positionOf, handle_hosting hnumber]

theorem subjectOf_hosting (hnumber : number < guest.handles.size) :
    (host.hosting guest).subjectOf (host.handles.size + number) = guest.subjectOf number := by
  rw [subjectOf, handle_hosting hnumber, subjectOf]
  simp [hosting, Array.getElem?_append_right]

/-- The cursors of the host are where they were, whatever the guest does. -/
theorem handle_hosting_outside (hnumber : number < host.handles.size) :
    (host.hosting guest).handle number = host.handle number := by
  simp [handle, hosting, Array.getElem?_append_left, hnumber]

theorem positionOf_hosting_outside (hnumber : number < host.handles.size) :
    (host.hosting guest).positionOf number = host.positionOf number := by
  rw [positionOf, handle_hosting_outside hnumber]
  rfl

theorem subjectOf_hosting_outside (h : host.HasCursor number) :
    (host.hosting guest).subjectOf number = host.subjectOf number := by
  rw [subjectOf, handle_hosting_outside h.1, subjectOf]
  simp [hosting, Array.getElem?_append_left h.2]

/-- A name that the host has not given means the guest's cursor, numbered on. -/
theorem lookup_names_hosting {name : String} (h : host.names.lookup name = none) :
    (host.hosting guest).names.lookup name =
      (guest.names.lookup name).map (host.handles.size + ·) := by
  simp [hosting, List.lookup_append, lookup_map_snd, h]

theorem lookup_scanners_hosting {name : String} (h : host.scanners.lookup name = none) :
    (host.hosting guest).scanners.lookup name =
      (guest.scanners.lookup name).map (Prod.map (host.handles.size + ·) id) := by
  simp [hosting, List.lookup_append, lookup_map_snd, h]

/-- A guest's cursor replies as it does alone. -/
theorem reply_hosting (hnumber : number < guest.handles.size) (outcome : Outcome)
    (seen : Option (List Int)) (tokens : Option (List Lexer.Token))
    (block : Option (List Reply × Int)) :
    (host.hosting guest).reply (host.handles.size + number) outcome seen tokens block =
      guest.reply number outcome seen tokens block := by
  rw [reply, reply, positionOf_hosting hnumber]

theorem place_hosting (hnumber : number < guest.handles.size) (position : Int) :
    (host.hosting guest).place (host.handles.size + number) position =
      host.hosting (guest.place number position) := by
  rw [place, handle_hosting hnumber]
  simp [hosting, place, Array.setIfInBounds_append_right]

/-- A cursor of the guest goes elsewhere, and one of them replies. -/
theorem place_reply_hosting {target : Nat} (hnumber : number < guest.handles.size)
    (htarget : target < guest.handles.size) (position : Int) (outcome : Outcome)
    (tokens : Option (List Lexer.Token)) (block : Option (List Reply × Int)) :
    ((host.hosting guest).place (host.handles.size + target) position,
      ((host.hosting guest).place (host.handles.size + target) position).reply
        (host.handles.size + number) outcome none tokens block) =
      Prod.map host.hosting id (guest.place target position,
        (guest.place target position).reply number outcome none tokens block) := by
  rw [place_hosting htarget, reply_hosting]
  · rfl
  · rwa [size_handles_place]

/-- A subject that a guest changes is changed beside any host. -/
theorem change_hosting (hnumber : number < guest.handles.size) (subject : Subject) :
    (host.hosting guest).change (host.handles.size + number) subject =
      host.hosting (guest.change number subject) := by
  rw [change, handle_hosting hnumber]
  simp [hosting, change]

variable {τ α : Type}

/-- A guest's move is the same beside any host. -/
theorem make_hosting (hnumber : number < guest.handles.size) (memory : τ) (move : Move Subject τ α)
    (outcome : α → Outcome) :
    (host.hosting guest).make (host.handles.size + number) memory move outcome =
      (guest.make number memory move outcome).map host.hosting id := by
  unfold make
  rw [subjectOf_hosting hnumber, positionOf_hosting hnumber]
  split
  · rw [place_hosting hnumber]
    rfl
  · rw [place_hosting hnumber]
    rfl

/-- A cursor of the guest makes a move and replies. -/
theorem make_reply_hosting (hnumber : number < guest.handles.size) (memory : τ)
    (move : Move Subject τ α) (outcome : α → Outcome) :
    (((host.hosting guest).make (host.handles.size + number) memory move outcome).1,
      ((host.hosting guest).make (host.handles.size + number) memory move outcome).1.reply
        (host.handles.size + number)
        ((host.hosting guest).make (host.handles.size + number) memory move outcome).2.2) =
      Prod.map host.hosting id ((guest.make number memory move outcome).1,
        (guest.make number memory move outcome).1.reply number
          (guest.make number memory move outcome).2.2) := by
  rw [make_hosting hnumber]
  dsimp only [Prod.map, id_eq]
  rw [reply_hosting]
  exact Nat.lt_of_lt_of_le hnumber (change_make guest number memory move outcome).size_le

theorem operate_hosting (hnumber : number < guest.handles.size)
    (operation : Operation Subject Memory Value) :
    (host.hosting guest).operate (host.handles.size + number) operation =
      (guest.operate number operation).map host.hosting id := by
  unfold operate
  rw [subjectOf_hosting hnumber, make_hosting hnumber]
  have hsize := (change_make guest number {} operation.move
    (fun answer => .value (valueOf (guest.subjectOf number) answer))).size_le
  simp only [Prod.map, id_eq]
  rw [reply_hosting (Nat.lt_of_lt_of_le hnumber hsize)]

theorem operateWith_hosting (hnumber : number < guest.handles.size) (elements : Subject)
    (operation : List Value → Operation Subject Memory Value) :
    (host.hosting guest).operateWith (host.handles.size + number) elements operation =
      (guest.operateWith number elements operation).map host.hosting id := by
  unfold operateWith
  split
  · exact operate_hosting hnumber _
  · rw [reply_hosting hnumber]
    rfl

theorem useMatch_hosting (hnumber : number < guest.handles.size) (use : MatchUse)
    (engine : Engine) :
    (host.hosting guest).useMatch (host.handles.size + number) use engine =
      (guest.useMatch number use engine).map host.hosting id := by
  unfold useMatch
  cases use with
  | advance | ask | read =>
    exact make_reply_hosting hnumber ..

theorem alter_hosting (hnumber : number < guest.handles.size) (changed : Except Fault Subject) :
    (host.hosting guest).alter (host.handles.size + number) changed =
      (guest.alter number changed).map host.hosting id := by
  unfold alter
  split
  · dsimp only
    rw [change_hosting hnumber, reply_hosting]
    · rfl
    · exact hnumber
  · rw [reply_hosting hnumber]
    rfl

theorem copying_hosting (hnumber : number < guest.handles.size) (name : String) :
    (host.hosting guest).copying (host.handles.size + number) name =
      host.hosting (guest.copying number name) := by
  rw [copying, handle_hosting hnumber, size_handles_hosting]
  simp [hosting, copying, positionOf]

theorem duplicate_hosting (hnumber : number < guest.handles.size) (name : String) :
    (host.hosting guest).duplicate (host.handles.size + number) name =
      (guest.duplicate number name).map host.hosting id := by
  unfold duplicate
  rw [subjectOf_hosting hnumber, positionOf_hosting hnumber]
  dsimp only
  split
  · rw [reply_hosting hnumber]
    rfl
  · have hcopied : number < (guest.copying number name).handles.size := lt_size_push hnumber _
    change ((host.hosting guest).copying _ name, ((host.hosting guest).copying _ name).reply _ _) = _
    rw [copying_hosting hnumber, reply_hosting hcopied]
    rfl

theorem scan_hosting (hnumber : number < guest.handles.size) (name : String)
    (fields : List (String × Record.Raw)) :
    (host.hosting guest).scan (host.handles.size + number) name fields =
      (guest.scan number name fields).map host.hosting id := by
  unfold scan
  split
  · rw [reply_hosting hnumber]
    rfl
  · exact congrArg _ (reply_hosting hnumber ..)

theorem step_hosting (hsound : guest.Sound) (hnumber : number < guest.handles.size) {name : String}
    (havoids : host.scanners.lookup name = none) :
    (host.hosting guest).step (host.handles.size + number) name =
      (guest.step number name).map host.hosting id := by
  unfold step
  rw [lookup_scanners_hosting havoids]
  cases hlookup : guest.scanners.lookup name with
  | none => rfl
  | some found =>
    obtain ⟨target, scanner⟩ := found
    have htarget := hsound.scanners hlookup
    dsimp only [Option.map, Prod.map, id_eq]
    rw [subjectOf_hosting htarget, positionOf_hosting htarget]
    have hscanning (scanner' : Scanner) :
        (host.hosting guest).scanning (host.handles.size + target) name scanner' =
          host.hosting (guest.scanning target name scanner') := rfl
    unfold scanning at hscanning
    rw [hscanning]
    split
    all_goals
      apply place_reply_hosting
      · exact hnumber
      · exact htarget

theorem scanAll_hosting (hnumber : number < guest.handles.size)
    (fields : List (String × Record.Raw)) :
    (host.hosting guest).scanAll (host.handles.size + number) fields =
      (guest.scanAll number fields).map host.hosting id := by
  unfold scanAll
  split
  · rw [reply_hosting hnumber]
    rfl
  · rw [subjectOf_hosting hnumber, positionOf_hosting hnumber]
    dsimp only
    split
    · exact place_reply_hosting hnumber hnumber ..
    · exact place_reply_hosting hnumber hnumber ..

theorem viewing_hosting (host guest : Session) (subject : Subject) (position : Int) :
    (host.hosting guest).viewing subject position =
      (guest.viewing subject position).map host.hosting (host.handles.size + ·) := by
  simp [viewing, hosting]

/-- A block opened by a guest is a block of the guest, numbered on. -/
theorem openView_hosting (hnumber : number < guest.handles.size) (view : Option Subject) :
    (host.hosting guest).openView (host.handles.size + number) view =
      (guest.openView number view).map (Prod.map host.hosting (host.handles.size + ·)) := by
  have hview : (host.hosting guest).viewOf (host.handles.size + number) view =
      guest.viewOf number view := by
    cases view with
    | some => rfl
    | none => exact congrArg Subject.asUtf8 (subjectOf_hosting hnumber)
  rw [openView_eq, openView_eq, hview, positionOf_hosting hnumber]
  simp only [viewing_hosting]
  cases guest.viewOf number view with
  | error => rfl
  | ok subject =>
    cases hcursor : Cursor.at? subject (guest.positionOf number) with
    | error => simp [bind, Except.bind, hcursor, Except.map]
    | ok cursor => simp [bind, Except.bind, hcursor, Except.map, pure, Except.pure]

/-- A block closed by a guest leaves its host as it is. -/
theorem closeView_hosting {inner : Nat} (hnumber : number < guest.handles.size)
    (hinner : inner < guest.handles.size) (ending : Ending) (replies : List Reply) :
    (host.hosting guest).closeView (host.handles.size + number) (host.handles.size + inner) ending
        replies =
      (guest.closeView number inner ending replies).map host.hosting id := by
  unfold closeView
  dsimp only
  rw [positionOf_hosting hnumber, positionOf_hosting hinner]
  exact place_reply_hosting hnumber hnumber ..

/-- A command for a name that the host has not given is for the guest's cursor of that name. -/
theorem target?_hosting {on : Option String} (h : ∀ name ∈ on, host.names.lookup name = none) :
    (host.hosting guest).target? (host.handles.size + number) on =
      (guest.target? number on).map (host.handles.size + ·) := by
  cases on with
  | none => rfl
  | some name => exact lookup_names_hosting (h name rfl)

end Hosting

mutual

/-- A command for a cursor of the guest does to the guest what it does to it alone, and is answered
alike. -/
theorem obey_hosting {host guest : Session} {number : Nat} (hsound : guest.Sound)
    (hnumber : number < guest.handles.size) :
    (command : Command) → command.Avoids host →
      (host.hosting guest).obey (host.handles.size + number) command =
        (guest.obey number command).map host.hosting id
  | .isAtEnd, _ | .remainder, _ | .consumedSince _, _ | .advance, _ | .advanceBy _, _
  | .advanceWhile _, _ | .advanceInspecting _, _ | .peek, _ | .peek2, _ | .peek3, _
  | .hasPrefix _, _ | .pop, _ | .popElement _, _ | .popWhere _, _ | .read _, _
  | .readWhile _, _ => by
    rw [obey, obey]
    exact operate_hosting hnumber _
  | .startsWith _, _ | .readPrefix _, _ => by
    rw [obey, obey]
    exact operateWith_hosting hnumber _ _
  | .describe, _ => by
    rw [obey, obey]
    exact make_reply_hosting hnumber () describe (.value ∘ .text)
  | .matching use engine, _ => by
    rw [obey, obey]
    exact useMatch_hosting hnumber use engine
  | .copy name, _ => by
    rw [obey, obey]
    exact duplicate_hosting hnumber name
  | .setPosition position, _ => by
    rw [obey, obey]
    exact place_reply_hosting hnumber hnumber ..
  | .append value, _ => by
    rw [obey, obey, subjectOf_hosting hnumber]
    exact alter_hosting hnumber _
  | .truncate bound, _ => by
    rw [obey, obey, subjectOf_hosting hnumber]
    exact alter_hosting hnumber _
  | .block view ending body, havoids => by
    rw [obey, obey, openView_hosting hnumber]
    cases hopen : guest.openView number view with
    | error fault =>
      dsimp only [Except.map]
      rw [reply_hosting hnumber]
      rfl
    | ok opened =>
      obtain ⟨opened, inner⟩ := opened
      obtain ⟨hchange, hinner⟩ := change_openView hopen
      have hopened := hchange.sound hsound
      have hrun := run_hosting hopened hinner body havoids
      have hsize := (changes_run hopened hinner body).size_le
      have hbefore := hchange.size_le
      dsimp only [Except.map, Prod.map]
      rw [hrun]
      exact closeView_hosting (by omega) (by omega) ending _
  | .scan name fields, _ => by
    rw [obey, obey]
    exact scan_hosting hnumber name fields
  | .next name, havoids => by
    rw [obey, obey]
    exact step_hosting hsound hnumber havoids
  | .scanAll fields, _ => by
    rw [obey, obey]
    exact scanAll_hosting hnumber fields

/-- A script that avoids a host's cursors and scanners runs in a guest as it runs in the guest
alone, and the host stays as it was. -/
theorem run_hosting {host guest : Session} {number : Nat} (hsound : guest.Sound)
    (hnumber : number < guest.handles.size) :
    (script : Script) → script.Avoids host →
      (host.hosting guest).run (host.handles.size + number) script =
        (guest.run number script).map host.hosting id
  | .done, _ => rfl
  | .step on command rest, ⟨hon, hcommand, hrest⟩ => by
    have htarget : (host.hosting guest).target? (host.handles.size + number) on = _ :=
      target?_hosting hon
    cases hguest : guest.target? number on with
    | none =>
      rw [hguest] at htarget
      rw [run_step_eq_of_none htarget, run_step_eq_of_none hguest,
        run_hosting hsound hnumber rest hrest]
      rfl
    | some target =>
      have htargetSize := target?_lt hsound hnumber hguest
      have hchanges := changes_obey hsound htargetSize command
      rw [hguest] at htarget
      rw [run_step_eq_of_some htarget, run_step_eq_of_some hguest,
        obey_hosting hsound htargetSize command hcommand]
      dsimp only [Prod.map, id_eq]
      rw [run_hosting (hchanges.sound hsound) (Nat.lt_of_lt_of_le hnumber hchanges.size_le) rest
        hrest]
      rfl

end

/-- Until the guest has ended, the host stays as it is. -/
theorem during_hosting {host guest now : Session} {number : Nat} {script : Script}
    (hsound : guest.Sound) (hnumber : number < guest.handles.size) (havoids : script.Avoids host)
    (h : During (host.hosting guest) (host.handles.size + number) script now) :
    ∃ guest', now = host.hosting guest' := by
  generalize hsession : host.hosting guest = session at h
  generalize hwhole : host.handles.size + number = whole at h
  induction h generalizing guest number with
  | here => exact ⟨guest, hsession.symm⟩
  | inside htarget hopen _ ih =>
    subst hsession hwhole
    obtain ⟨hon, hbody, -⟩ := havoids
    rw [target?_hosting hon] at htarget
    obtain ⟨target, hguest, rfl⟩ := Option.map_eq_some_iff.1 htarget
    rw [openView_hosting (target?_lt hsound hnumber hguest)] at hopen
    obtain ⟨⟨opened, inner⟩, hopened, heq⟩ := Fault.map_eq_ok.1 hopen
    obtain ⟨rfl, rfl⟩ := Prod.mk.inj heq
    obtain ⟨hchange, hinner⟩ := change_openView hopened
    exact ih (hchange.sound hsound) hinner hbody rfl rfl
  | @later _ _ _ _ _ command _ htarget _ ih =>
    subst hsession hwhole
    obtain ⟨hon, hcommand, hrest⟩ := havoids
    rw [target?_hosting hon] at htarget
    obtain ⟨target, hguest, rfl⟩ := Option.map_eq_some_iff.1 htarget
    have htargetSize := target?_lt hsound hnumber hguest
    have hchanges := changes_obey hsound htargetSize command
    rw [obey_hosting hsound htargetSize command hcommand] at ih
    exact ih (hchanges.sound hsound) (Nat.lt_of_lt_of_le hnumber hchanges.size_le) hrest rfl rfl
  | skipped _ _ ih => exact ih hsound hnumber havoids.2.2 hsession hwhole

/-- To open a cursor over one more subject is to host a session of its own. -/
theorem viewing_eq_hosting (session : Session) (subject : Subject) (position : Int) :
    session.viewing subject position =
      (session.hosting (alone subject position), session.handles.size + 0) := by
  simp [viewing, hosting, alone]

/-- A block is opened just when a session can begin with a cursor over the view, where the cursor
outside is; and then that session stands beside the one outside. -/
theorem openView_eq_start (session : Session) (number : Nat) (view : Subject) :
    session.openView number (some view) =
      (start view (some (session.positionOf number))).map fun fresh =>
        (session.hosting fresh, session.handles.size + 0) := by
  rw [openView_eq, start_eq]
  simp only [viewing_eq_hosting]
  cases h : Cursor.at? view (session.positionOf number) with
  | error => simp [viewOf, h, bind, Except.bind, Except.map]
  | ok => simp [viewOf, h, bind, Except.bind, Except.map, pure, Except.pure]

/-- What a block over a view does, if its body keeps to the cursors and scanners that it adds. Unless
a cursor over the view cannot begin where the cursor outside is, the body is answered as in a session
with such a cursor alone, and meanwhile no cursor outside moves, nor does its subject change. At the
end the cursor outside goes where the inner one is, and the outcome is that of the body. -/
theorem obey_block {session : Session} {number : Nat} (hcursor : session.HasCursor number)
    (view : Subject) (ending : Ending) {body : Script} (hbody : body.Avoids session) :
    (∀ fault, start view (some (session.positionOf number)) = .error fault →
      session.obey number (.block (some view) ending body) =
        (session, session.reply number (.fault fault))) ∧
    ∀ fresh, start view (some (session.positionOf number)) = .ok fresh →
      ∃ opened inner, session.openView number (some view) = .ok (opened, inner) ∧
        (opened.run inner body).2 = (fresh.run 0 body).2 ∧
        (opened.run inner body).1.positionOf inner = (fresh.run 0 body).1.positionOf 0 ∧
        (∀ now other, During opened inner body now → session.HasCursor other →
          now.positionOf other = session.positionOf other ∧
          now.subjectOf other = session.subjectOf other) ∧
        let closed := session.obey number (.block (some view) ending body)
        closed.1.positionOf number = (fresh.run 0 body).1.positionOf 0 ∧
        closed.1.subjectOf number = session.subjectOf number ∧
        closed.2 = .mk (ending (fresh.run 0 body).2)
          (some ((fresh.run 0 body).1.positionOf 0)) none none
          (some ((fresh.run 0 body).2, session.positionOf number)) := by
  have hopen := openView_eq_start session number view
  refine ⟨?_, ?_⟩
  · intro fault hstart
    rw [hstart] at hopen
    exact obey_block_of_error hopen ending body
  · intro fresh hstart
    rw [hstart] at hopen
    -- The session with the block open hosts the fresh one, and so it does after the body.
    obtain ⟨cursor, -, rfl⟩ : ∃ cursor, Cursor.at? view (session.positionOf number) = .ok cursor ∧
        alone view cursor.position = fresh := by
      rw [start_eq] at hstart
      exact Fault.map_eq_ok.1 hstart
    have hsound := sound_alone view cursor.position
    have hinner : 0 < (alone view cursor.position).handles.size := Nat.one_pos
    have hrun := run_hosting hsound hinner body hbody
    have hended := Nat.lt_of_lt_of_le hinner (changes_run hsound hinner body).size_le
    have hinnerEnd : ((session.hosting (alone view cursor.position)).run (session.handles.size + 0)
        body).1.positionOf (session.handles.size + 0) =
          ((alone view cursor.position).run 0 body).1.positionOf 0 := by
      rw [hrun]
      exact positionOf_hosting hended
    refine ⟨_, _, hopen, ?_, hinnerEnd, ?_, ?_⟩
    · rw [hrun]
      rfl
    · intro now other hduring hother
      obtain ⟨guest, rfl⟩ := during_hosting hsound hinner hbody hduring
      exact ⟨positionOf_hosting_outside hother.1, subjectOf_hosting_outside hother⟩
    · have hnumber : number <
          (session.hosting ((alone view cursor.position).run 0 body).1).handles.size := by
        rw [size_handles_hosting]
        exact Nat.lt_add_right _ hcursor.1
      rw [obey, hopen]
      dsimp only [Except.map, closeView]
      rw [hinnerEnd, hrun]
      dsimp only [Prod.map, id_eq]
      refine ⟨positionOf_place hnumber _, ?_, ?_⟩
      · rw [subjectOf_place, subjectOf_hosting_outside hcursor]
      · rw [reply, positionOf_place hnumber, positionOf_hosting_outside hcursor.1]

/-- A session whose one cursor has a name, and a scanner. -/
def named : Session where
  subjects := #[.ofText "abcdef"]
  handles := #[⟨0, 1⟩]
  names := [("outer", 0)]
  scanners := [("tokens", 0, { config := {} })]

/-- A body that opens a block which gives up, in which another one is refused, and whose last command
fails. -/
def descent : Script := .ofList [
  (none, .pop),
  (none, .block (some (.ofBytes true [1, 2, 3, 4, 5, 6])) true (.ofList [
    (none, .copy "behind"),
    (none, .read 2),
    (some "behind", .append (.int 7)),
    (none, .block (some (.ofBytes false [1])) false .done)])),
  (none, .popWhere (Judgement.failAfter 0))]

/-- A body that ends like its last command. -/
def endsLikeLast : Ending := fun replies =>
  match replies.getLast? with
  | some reply => reply.outcome
  | none => .value .none

/-- A block over six elements that fails in its last command, with two blocks inside it. -/
theorem obey_block_descent :
    named.HasCursor 0 ∧ descent.Avoids named ∧
      let closed := named.obey 0
        (.block (some (.ofTuple [.int 1, .int 2, .int 3, .int 4, .int 5, .int 6])) endsLikeLast descent)
      closed.1.positionOf 0 = 4 ∧ closed.1.subjectOf 0 = .ofText "abcdef" ∧
        closed.2.outcome = .fault .raised := by
  have hcursor : named.HasCursor 0 := ⟨Nat.one_pos, Nat.one_pos⟩
  have havoids : descent.Avoids named := by
    simp [descent, Script.ofList, Script.Avoids, Command.Avoids, named, List.lookup_cons, List.lookup_nil]
  obtain ⟨-, hopens⟩ := obey_block hcursor (.ofTuple [.int 1, .int 2, .int 3, .int 4, .int 5, .int 6])
    endsLikeLast havoids
  obtain ⟨_, _, -, -, -, -, hposition, hsubject, hreply⟩ := hopens _ rfl
  exact ⟨hcursor, havoids, hposition, hsubject, congrArg Reply.outcome hreply⟩

end Scanning.Session
