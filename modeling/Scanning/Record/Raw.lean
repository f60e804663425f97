import Scanning.Fault
import Scanning.Text.Number
import Scanning.Utf8

namespace Scanning.Record

/-- Loosely typed data. A decimal number is its digits without the point, and how many of them
stand behind it. -/
inductive Raw where
  | null
  | bool (b : Bool)
  | int (n : Int)
  | decimal (digits : Int) (places : Nat)
  | text (s : String)
  | list (items : List Raw)
  | object (fields : List (String × Raw))
  deriving Repr, Inhabited

/-- Words that mean false. -/
def falseWords : List String := ["0", "off", "f", "false", "n", "no"]

/-- Words that mean true. -/
def trueWords : List String := ["1", "on", "t", "true", "y", "yes"]

/-- A truth value, or what can be meant as one: the numbers zero and one, and the words. -/
def readBool : Raw → Except FieldCause Bool
  | .bool b => .ok b
  | .int n => if n = 0 then .ok false else if n = 1 then .ok true else .error .unreadableBoolean
  | .decimal digits places =>
    if digits = 0 then .ok false
    else if digits = Nat.pow 10 places then .ok true
    else .error .notBoolean
  | .text s =>
    let word := s.map Char.toLower
    if falseWords.contains word then .ok false
    else if trueWords.contains word then .ok true
    else .error .unreadableBoolean
  | _ => .error .notBoolean

/-- A number without sign. Zeros may follow behind a point. -/
def readUnsigned (chars : List Char) : Option Nat :=
  let whole := chars.takeWhile (· != '.')
  if (chars.drop (whole.length + 1)).all (· == '0') then Text.readDigits Text.asciiDigit? 0 whole
  else none

/-- A whole number, or what can be meant as one. -/
def readInt : Raw → Except FieldCause Int
  | .bool b => .ok (if b then 1 else 0)
  | .int n => .ok n
  | .decimal digits places =>
    if digits % Nat.pow 10 places = 0 then .ok (digits / Nat.pow 10 places)
    else .error .fractionalInteger
  | .text s =>
    match Text.readSigned readUnsigned (Text.trim s.toList) with
    | some n => .ok n
    | none => .error .unreadableInteger
  | _ => .error .notInteger

/-- A number that is not below the least one. -/
def readIntFrom (least : Int) (raw : Raw) : Except FieldCause Int := do
  let n ← readInt raw
  if n < least then throw (.below least) else return n

/-- A number between two bounds. -/
def readIntBetween (least greatest : Int) (raw : Raw) : Except FieldCause Int := do
  let n ← readIntFrom least raw
  if greatest < n then throw (.above greatest) else return n

/-- A text, and nothing else. -/
def readText : Raw → Except FieldCause String
  | .text s => .ok s
  | _ => .error .notText

/-- The UTF-8 bytes of a text. -/
def readBytes : Raw → Except FieldCause (List UInt8)
  | .text s => .ok (Utf8.encode s.toList)
  | _ => .error .notBytes

/-- A record under construction: its value, or all the fields that were refused. -/
abbrev Checked (α : Type) := Except (List FieldFault) α

/-- Adds a field to a record. The faults of both sides are kept, in order. -/
def Checked.field {α β : Type} (record : Checked (α → β)) (value : Checked α) : Checked β :=
  match record, value with
  | .ok f, .ok a => .ok (f a)
  | .ok _, .error faults => .error faults
  | .error faults, .ok _ => .error faults
  | .error faults, .error more => .error (faults ++ more)

/-- The named field as the reader reads it. -/
def present {α : Type} (read : Raw → Except FieldCause α) (name : String) (raw : Raw) :
    Checked α :=
  match read raw with
  | .ok a => .ok a
  | .error cause => .error [⟨[name], cause⟩]

/-- A field that has to be there. -/
def required {α : Type} (fields : List (String × Raw)) (name : String)
    (read : Raw → Except FieldCause α) : Checked α :=
  match fields.lookup name with
  | some raw => present read name raw
  | none => .error [⟨[name], .missing⟩]

/-- A field with a value of its own when it is not there. -/
def optional {α : Type} (fields : List (String × Raw)) (name : String) (default : α)
    (read : Raw → Except FieldCause α) : Checked α :=
  match fields.lookup name with
  | some raw => present read name raw
  | none => .ok default

end Scanning.Record
