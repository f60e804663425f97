import Scanning.Lexer.Token
import Scanning.Record.Raw
import Scanning.Session.Inspecting
import Scanning.Session.Matching

namespace Scanning.Session

/-- What to do with a match. -/
inductive MatchUse where
  | advance
  | ask
  | read
  deriving DecidableEq, Repr

/-- How a command ended. -/
inductive Outcome where
  | value (value : Value)
  | found (found : Option Found)
  | token (token : Option Lexer.Token)
  | fault (fault : Fault)
  | noSuchName

/-- How a command ended, where its cursor stands then, and what else there is to tell: the
positions that a test saw, the tokens of a scan, the replies of a block and the position outside at
its end. -/
inductive Reply where
  | mk (outcome : Outcome) (position : Option Int) (seen : Option (List Int))
    (tokens : Option (List Lexer.Token)) (block : Option (List Reply × Int))

/-- How a body ends, given the replies to its commands: with a value, or with a failure, which may be
that of one of the commands. -/
abbrev Ending := List Reply → Outcome

/-- A body that ends well, or with a failure of its own. -/
def endingOf (fails : Bool) : Ending := fun _ =>
  if fails then .fault .raised else .value (.text "done")

instance : Coe Bool Ending := ⟨endingOf⟩

mutual

/-- What can be asked for in a session. Tests and patterns may be any; judgements and glances are
those that have a name. -/
inductive Command where
  | isAtEnd
  | remainder
  | consumedSince (start : Int)
  | advance
  | advanceBy (distance : Int)
  | advanceWhile (test : Test Memory Value)
  | advanceInspecting (test : Inspection Subject Memory Value)
  | peek
  | peek2
  | peek3
  | hasPrefix (value : Value)
  | startsWith (elements : Subject)
  | pop
  | popElement (value : Value)
  | popWhere (test : Test Memory Value)
  | read (count : Int)
  | readPrefix (elements : Subject)
  | readWhile (test : Test Memory Value)
  | describe
  | matching (use : MatchUse) (engine : Engine)
  /-- Gives a name to a copy of the cursor. -/
  | copy (name : String)
  /-- Puts the cursor anywhere, without a check. -/
  | setPosition (position : Int)
  /-- Changes the subject in place, behind all cursors over it. -/
  | append (value : Value)
  | truncate (bound : Int)
  /-- Works on another view of the same indices; without one, on the UTF-8 of the subject. -/
  | block (view : Option Subject) (ending : Ending) (body : Script)
  /-- Gives a name to a new scanner on the cursor. -/
  | scan (name : String) (fields : List (String × Record.Raw))
  /-- The next token of a scanner. -/
  | next (name : String)
  /-- Scans to the end. -/
  | scanAll (fields : List (String × Record.Raw))

/-- Commands one after the other, each for the current cursor or for a named one. -/
inductive Script where
  | done
  | step (on : Option String) (command : Command) (rest : Script)

end

instance : Inhabited Script := ⟨.done⟩

/-- Commands in a list as a script. -/
def Script.ofList : List (Option String × Command) → Script
  | [] => done
  | (on, command) :: rest => step on command (ofList rest)

end Scanning.Session
