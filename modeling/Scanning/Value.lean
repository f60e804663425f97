namespace Scanning

/-- Values of mixed kinds: what the elements of a list may be, and what operations answer. -/
inductive Value where
  | none
  | bool (b : Bool)
  | int (n : Int)
  | text (s : String)
  /-- Bytes, and whether they stand in memory that may change. -/
  | bytes (isMutable : Bool) (data : List UInt8)
  | list (items : List Value)
  | tuple (items : List Value)
  deriving Repr, Inhabited

namespace Value

/-- The number that a value counts as. Truth values count as zero and one. -/
def number? : Value → Option Int
  | bool b => some (if b then 1 else 0)
  | int n => some n
  | _ => Option.none

mutual

/-- Equality of values: numbers by amount, bytes by content, and lists apart from tuples. -/
def same : Value → Value → Bool
  | none, none => true
  | text s, text t => s == t
  | bytes _ data, bytes _ data' => data == data'
  | list items, list items' => allSame items items'
  | tuple items, tuple items' => allSame items items'
  | a, b =>
    match a.number?, b.number? with
    | some m, some n => m == n
    | _, _ => false

/-- Equality element by element. -/
def allSame : List Value → List Value → Bool
  | [], [] => true
  | a :: as, b :: bs => same a b && allSame as bs
  | _, _ => false

end

instance : BEq Value := ⟨same⟩

/-- Nothing, false, zero and everything empty count as false. -/
def isTruthy : Value → Bool
  | none => false
  | bool b => b
  | int n => n != 0
  | text s => !s.isEmpty
  | bytes _ data => !data.isEmpty
  | list items => !items.isEmpty
  | tuple items => !items.isEmpty

/-- A byte as a value. -/
def ofByte (byte : UInt8) : Value := int byte.toNat

/-- A character as a value. -/
def ofChar (c : Char) : Value := text (String.singleton c)

/-- Whether the value is a text in the class. -/
def isTextIn (inClass : String → Bool) : Value → Bool
  | text s => inClass s
  | _ => false

end Value

end Scanning
