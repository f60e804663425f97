import Scanning.Unicode.Classes

namespace Scanning.Text

/-- Blanks that may stand around a number: white space without the information separators. -/
def isPadding (c : Char) : Bool := Unicode.isBlank c && !(0x1C ≤ c.toNat && c.toNat ≤ 0x1F)

/-- The characters without the padding at both ends. -/
def trim (chars : List Char) : List Char :=
  ((chars.dropWhile isPadding).reverse.dropWhile isPadding).reverse

/-- The value of an ASCII digit. -/
def asciiDigit? (c : Char) : Option Nat := if c.isDigit then some (c.toNat - 48) else none

/-- The number that the digits mean behind others that mean `sofar`. A single underline may stand
between two digits. -/
def readDigits (digit? : Char → Option Nat) (sofar : Nat) : List Char → Option Nat
  | [] => none
  | [c] => (digit? c).map (sofar * 10 + ·)
  | c :: '_' :: rest => do readDigits digit? (sofar * 10 + (← digit? c)) rest
  | c :: rest => do readDigits digit? (sofar * 10 + (← digit? c)) rest

/-- A number with at most one sign in front. -/
def readSigned (unsigned? : List Char → Option Nat) : List Char → Option Int
  | '-' :: digits => (unsigned? digits).map fun n => -(n : Int)
  | '+' :: digits => (unsigned? digits).map Int.ofNat
  | digits => (unsigned? digits).map Int.ofNat

/-- Longer numbers are not read. -/
def mostDigits : Nat := 4300

/-- The number that a text means, in the digits of any decimal system. -/
def readInt? (text : String) : Option Int :=
  let chars := trim text.toList
  if mostDigits < (chars.filter fun c => (Unicode.decimal? c).isSome).length then none
  else readSigned (readDigits Unicode.decimal? 0) chars

end Scanning.Text
