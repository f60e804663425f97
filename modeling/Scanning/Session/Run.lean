import Scanning.Lexer.Scan
import Scanning.Move.Operation
import Scanning.Record.Shapes
import Scanning.Session.Script

namespace Scanning

open IndexSpace
open Lexer (Scanner Token Config)

/-- Where a cursor of the session stands, and in which subject. -/
structure Session.Handle where
  subject : Nat
  position : Int
  deriving DecidableEq, Repr

/-- The state of a session: several cursors, some of them over the same subject, and scanners that
work on them. A change of a subject shows through every cursor over it; a move shows in its own
cursor only. Cursors and subjects are known by number; some cursors have a name, and scanners are
known by name and work on one cursor. -/
structure Session where
  subjects : Array Subject
  handles : Array Session.Handle
  names : List (String × Nat) := []
  scanners : List (String × Nat × Scanner) := []

namespace Session

/-- A session with one cursor. -/
def start (subject : Subject) (position : Option Int) : Except Fault Session := do
  let cursor ← Cursor.at? subject (position.getD 0)
  return { subjects := #[subject], handles := #[⟨0, cursor.position⟩] }

/-- Where a cursor stands, and in which subject. -/
def handle (session : Session) (number : Nat) : Handle :=
  session.handles[number]?.getD ⟨0, 0⟩

/-- The subject of a cursor. -/
def subjectOf (session : Session) (number : Nat) : Subject :=
  session.subjects[(session.handle number).subject]?.getD (Subject.ofText "")

/-- Where a cursor stands. -/
def positionOf (session : Session) (number : Nat) : Int := (session.handle number).position

/-- Puts a cursor at an index. -/
def place (session : Session) (number : Nat) (position : Int) : Session :=
  { session with
    handles := session.handles.setIfInBounds number
      { session.handle number with position } }

/-- Changes the subject of a cursor in place. -/
def change (session : Session) (number : Nat) (subject : Subject) : Session :=
  { session with
    subjects := session.subjects.setIfInBounds (session.handle number).subject subject }

/-- A reply that tells the outcome and the position of the cursor. -/
def reply (session : Session) (number : Nat) (outcome : Outcome)
    (seen : Option (List Int) := none) (tokens : Option (List Token) := none)
    (block : Option (List Reply × Int) := none) : Reply :=
  .mk outcome (some (session.positionOf number)) seen tokens block

/-- The reply to a command for a cursor or a scanner that there is not. -/
def unknownName : Reply := .mk .noSuchName none none none none

/-- Makes a move of a cursor, and makes an outcome of the answer. -/
def make {τ α : Type} (session : Session) (number : Nat) (memory : τ) (move : Move Subject τ α)
    (outcome : α → Outcome) : Session × τ × Outcome :=
  match move (session.subjectOf number) ⟨session.positionOf number, memory⟩ with
  | .ok answer standing =>
    (session.place number standing.position, standing.memory, outcome answer)
  | .error fault standing =>
    (session.place number standing.position, standing.memory, .fault fault)

/-- The answer of an operation as a value of the subject's kind. -/
def valueOf (subject : Subject) : Answer Value → Value
  | .nothing => .none
  | .verdict holds => .bool holds
  | .element found => found.getD .none
  | .pair (some (a, b)) => .tuple [a, b]
  | .triple (some (a, b, c)) => .tuple [a, b, c]
  | .piece (some elements) => subject.assemble elements
  | .pair none | .triple none | .piece none => .none

/-- Performs an operation of a cursor. -/
def operate (session : Session) (number : Nat) (operation : Operation Subject Memory Value) :
    Session × Reply :=
  let (after, memory, outcome) := session.make number {} operation.move
    fun answer => .value (valueOf (session.subjectOf number) answer)
  let seen := match operation with
    | .advanceInspecting _ => some memory.seen
    | _ => none
  (after, after.reply number outcome seen)

/-- Performs an operation with all elements of another subject. -/
def operateWith (session : Session) (number : Nat) (elements : Subject)
    (operation : List Value → Operation Subject Memory Value) : Session × Reply :=
  match elements.elements with
  | .ok elements => session.operate number (operation elements)
  | .error fault => (session, session.reply number (.fault fault))

/-- How a cursor is shown. -/
def describe : Move Subject Unit String := Move.look fun subject index =>
  .ok s!"CollectionCursor(position={index}, end={endIndex subject})"

/-- A change of the subject behind a cursor. -/
def alter (session : Session) (number : Nat) (changed : Except Fault Subject) :
    Session × Reply :=
  match changed with
  | .ok subject =>
    let session := session.change number subject
    (session, session.reply number (.value .none))
  | .error fault => (session, session.reply number (.fault fault))

/-- Gives a name to a new cursor at the place of another one. -/
def duplicate (session : Session) (number : Nat) (name : String) : Session × Reply :=
  let cursor : Cursor Subject := ⟨session.subjectOf number, session.positionOf number⟩
  match cursor.copy with
  | .error fault => (session, session.reply number (.fault fault))
  | .ok _ =>
    let session := { session with
      handles := session.handles.push (session.handle number)
      names := (name, session.handles.size) :: session.names }
    (session, session.reply number (.value .none))

/-- The next token of a scanner at a place in a subject. Only texts and views of UTF-8 have
characters to scan. -/
def nextToken (scanner : Scanner) (subject : Subject) (standing : Standing Unit) :
    Scanner × EStateM.Result Fault (Standing Unit) (Option Token) :=
  match subject with
  | .text characters => scanner.next characters standing
  | .scalars view => scanner.next view standing
  | _ => (scanner, .error .unsuitable standing)

/-- All tokens that a scanner still gives at a place in a subject. -/
def remainingTokens (scanner : Scanner) (subject : Subject) (standing : Standing Unit) :
    List Token × EStateM.Result Fault (Standing Unit) Unit :=
  match subject with
  | .text characters => scanner.drain characters standing
  | .scalars view => scanner.drain view standing
  | _ => ([], .error .unsuitable standing)

/-- Gives a name to a new scanner on a cursor. -/
def scan (session : Session) (number : Nat) (name : String)
    (fields : List (String × Record.Raw)) : Session × Reply :=
  match Config.ofFields fields with
  | .error faults => (session, session.reply number (.fault (.invalidFields faults)))
  | .ok config =>
    let session := { session with scanners := (name, number, { config }) :: session.scanners }
    (session, session.reply number (.value .none))

/-- Takes the next token of a named scanner, which moves its own cursor. -/
def step (session : Session) (number : Nat) (name : String) : Session × Reply :=
  match session.scanners.lookup name with
  | none => (session, unknownName)
  | some (target, scanner) =>
    let (scanner, result) :=
      nextToken scanner (session.subjectOf target) ⟨session.positionOf target, ()⟩
    let session := { session with scanners := (name, target, scanner) :: session.scanners }
    match result with
    | .ok token standing =>
      let session := session.place target standing.position
      (session, session.reply number (.token token))
    | .error fault standing =>
      let session := session.place target standing.position
      (session, session.reply number (.fault fault))

/-- Scans to the end with a new scanner. -/
def scanAll (session : Session) (number : Nat) (fields : List (String × Record.Raw)) :
    Session × Reply :=
  match Config.ofFields fields with
  | .error faults => (session, session.reply number (.fault (.invalidFields faults)) none (some []))
  | .ok config =>
    let (tokens, ending) :=
      remainingTokens { config } (session.subjectOf number) ⟨session.positionOf number, ()⟩
    match ending with
    | .ok () standing =>
      let session := session.place number standing.position
      (session, session.reply number (.value (.int tokens.length)) none (some tokens))
    | .error fault standing =>
      let session := session.place number standing.position
      (session, session.reply number (.fault fault) none (some tokens))

/-- Uses a match at the position of a cursor. -/
def useMatch (session : Session) (number : Nat) (use : MatchUse) (engine : Engine) :
    Session × Reply :=
  let (session, _, outcome) := match use with
    | .advance => session.make number () (advanceMatching engine) (.value ∘ .bool)
    | .ask => session.make number () (hasPrefixMatch engine) (.value ∘ .bool)
    | .read => session.make number () (readMatch engine) .found
  (session, session.reply number outcome)

/-- Opens a cursor over a view at the position of another cursor. -/
def openView (session : Session) (number : Nat) (view : Option Subject) :
    Except Fault (Session × Nat) := do
  let subject ← match view with
    | some subject => pure subject
    | none => (session.subjectOf number).asUtf8
  let inner ← Cursor.at? subject (session.positionOf number)
  return ({ session with
    subjects := session.subjects.push subject
    handles := session.handles.push ⟨session.subjects.size, inner.position⟩ },
    session.handles.size)

/-- Closes a block: the outer cursor goes where the inner one is. -/
def closeView (session : Session) (number inner : Nat) (ending : Ending) (replies : List Reply) :
    Session × Reply :=
  let outside := session.positionOf number
  let session := session.place number (session.positionOf inner)
  (session, session.reply number (ending replies) none none (some (replies, outside)))

mutual

/-- Obeys one command for the cursor with a number. -/
def obey (session : Session) (number : Nat) : Command → Session × Reply
  | .isAtEnd => session.operate number .isAtEnd
  | .remainder => session.operate number .remainder
  | .consumedSince start => session.operate number (.consumedSince start)
  | .advance => session.operate number .advance
  | .advanceBy distance => session.operate number (.advanceBy distance)
  | .advanceWhile test => session.operate number (.advanceWhile test)
  | .advanceInspecting test => session.operate number (.advanceInspecting test)
  | .peek => session.operate number .peek
  | .peek2 => session.operate number .peek2
  | .peek3 => session.operate number .peek3
  | .hasPrefix value => session.operate number (.hasPrefix value)
  | .startsWith elements => session.operateWith number elements .startsWith
  | .pop => session.operate number .pop
  | .popElement value => session.operate number (.popElement value)
  | .popWhere test => session.operate number (.popWhere test)
  | .read count => session.operate number (.read count)
  | .readPrefix elements => session.operateWith number elements .readPrefix
  | .readWhile test => session.operate number (.readWhile test)
  | .describe =>
    let (session, _, outcome) := session.make number () describe (.value ∘ .text)
    (session, session.reply number outcome)
  | .matching use engine => session.useMatch number use engine
  | .copy name => session.duplicate number name
  | .setPosition position =>
    let session := session.place number position
    (session, session.reply number (.value .none))
  | .append value => session.alter number ((session.subjectOf number).append value)
  | .truncate bound => session.alter number ((session.subjectOf number).truncate bound)
  | .block view ending body =>
    match session.openView number view with
    | .error fault => (session, session.reply number (.fault fault))
    | .ok (opened, inner) =>
      let (ended, replies) := opened.run inner body
      ended.closeView number inner ending replies
  | .scan name fields => session.scan number name fields
  | .next name => session.step number name
  | .scanAll fields => session.scanAll number fields

/-- Obeys a script whose current cursor has a number. -/
def run (session : Session) (number : Nat) : Script → Session × List Reply
  | .done => (session, [])
  | .step on command rest =>
    let target := match on with
      | some name => session.names.lookup name
      | none => some number
    let (session, reply) := match target with
      | some target => session.obey target command
      | none => (session, unknownName)
    let (session, replies) := session.run number rest
    (session, reply :: replies)

end

end Session

end Scanning
