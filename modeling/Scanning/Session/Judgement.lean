import Scanning.Cursor
import Scanning.Value
import Scanning.Unicode.Classes

namespace Scanning.Session

/-- Classes of texts. -/
inductive TextClass where
  | letters
  | digits
  | blanks
  | alphanumerics
  | wordStart
  | wordChar
  deriving DecidableEq, Repr

/-- Whether a text is in the class. The classes of word characters are those of the lexer: an
underline counts, alone. -/
def TextClass.contains (text : String) : TextClass → Bool
  | letters => Unicode.everyChar Unicode.isLetter text
  | digits => Unicode.everyChar Unicode.isDigit text
  | blanks => Unicode.everyChar Unicode.isBlank text
  | alphanumerics => Unicode.everyChar Unicode.isAlphanumeric text
  | wordStart => Unicode.everyChar Unicode.isLetter text || text == "_"
  | wordChar => Unicode.everyChar Unicode.isAlphanumeric text || text == "_"

/-- Tests of values that a script can name. A test remembers how often it has been asked. -/
inductive Judgement where
  | all
  | none
  | truthy
  | inClass (textClass : TextClass)
  | equal (value : Value)
  | different (value : Value)
  | among (values : List Value)
  | between (low high : Int)
  /-- Accepts as often as this, then nothing more. -/
  | first (times : Int)
  /-- Fails at this value, and accepts all others. -/
  | failOn (value : Value)
  /-- Accepts as often as this, then fails. -/
  | failAfter (times : Int)
  | not (other : Judgement)
  deriving Repr, Inhabited

/-- The verdict on a value after that many earlier questions. -/
def Judgement.verdict (asked : Nat) (value : Value) : Judgement → Except Fault Bool
  | all => .ok true
  | none => .ok false
  | truthy => .ok value.isTruthy
  | inClass textClass => .ok (value.isTextIn textClass.contains)
  | equal other => .ok (value == other)
  | different other => .ok (value != other)
  | among others => .ok (others.any (value == ·))
  | between low high =>
    match value with
    | .int n => .ok (low ≤ n && n ≤ high)
    | _ => .ok false
  | first times => .ok (asked < times)
  | failOn other => if value == other then .error .raised else .ok true
  | failAfter times => if asked < times then .ok true else .error .raised
  | not other => (!·) <$> other.verdict asked value

/-- What tests remember: how often they were asked, and at which positions. -/
structure Memory where
  asked : Nat := 0
  seen : List Int := []

/-- The test that gives the verdicts of a judgement. -/
def Judgement.test (judgement : Judgement) : Test Memory Value := fun value memory =>
  let asked := { memory with asked := memory.asked + 1 }
  match judgement.verdict memory.asked value with
  | .ok accepted => .ok accepted asked
  | .error fault => .error fault asked

instance : Coe Judgement (Test Memory Value) := ⟨Judgement.test⟩

end Scanning.Session
