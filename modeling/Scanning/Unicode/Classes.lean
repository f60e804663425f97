import Scanning.Unicode.Numerals
import Scanning.Unicode.Printing

namespace Scanning.Unicode

/-- A letter of some script. -/
def isLetter (c : Char) : Bool := letters.contains c.toNat

/-- A digit of a positional decimal system. -/
def isDecimal (c : Char) : Bool := decimals.contains c.toNat

/-- The value of a digit of a positional decimal system. Each such system has its ten digits in a
row, in increasing order, and a range of the table holds whole systems. -/
def decimal? (c : Char) : Option Nat :=
  (decimals.find? fun (low, high) => low ≤ c.toNat && c.toNat ≤ high).map
    fun (low, _) => (c.toNat - low) % 10

/-- A digit, also one that stands outside a positional system. -/
def isDigit (c : Char) : Bool := isDecimal c || digitForms.contains c.toNat

/-- A character with a numeric value. -/
def isNumeric (c : Char) : Bool := isDigit c || numberForms.contains c.toNat

/-- A letter or a character with a numeric value. -/
def isAlphanumeric (c : Char) : Bool := isLetter c || isNumeric c

/-- The code points that count as white space in Unicode 14: bidirectional class WS, B or S, or
general category Zs. The information separators U+001C to U+001F are among them. -/
def blanks : Ranges := [
  (0x9, 0xD), (0x1C, 0x20), (0x85, 0x85), (0xA0, 0xA0), (0x1680, 0x1680), (0x2000, 0x200A),
  (0x2028, 0x2029), (0x202F, 0x202F), (0x205F, 0x205F), (0x3000, 0x3000)]

/-- White space. -/
def isBlank (c : Char) : Bool := blanks.contains c.toNat

/-- A character that is shown as it is. -/
def isPrintable (c : Char) : Bool := !unprintables.contains c.toNat

/-- A text in a class has a character, and all of its characters are in the class. -/
def everyChar (inClass : Char → Bool) (text : String) : Bool :=
  !text.isEmpty && text.toList.all inClass

end Scanning.Unicode
