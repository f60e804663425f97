import Scanning.Span.Basic
import Scanning.Unicode.Classes

namespace Scanning.Span

variable {τ ε : Type}

/-- Takes a window of `n` elements. A field that is longer than what is left is an underrun, and the
cursor does not move. -/
def view (n : Int) : Move (Span ε) τ Window := do
  match ← read n with
  | some window => return window
  | none =>
    let left ← count
    throw (.parse ⟨.span, .underrun n left, some (← position)⟩)

variable [Stored ε]

/-- Takes the memory of `n` elements as bytes. -/
def take (n : Int) : Move (Span ε) τ (List UInt8) := do
  let window ← view n
  let span ← readThe (Span ε)
  return (window.items span.items).flatMap Stored.bytes

/-- Bytes as ASCII text; others are left out. -/
def asciiChars (bytes : List UInt8) : List Char :=
  (bytes.filter (· < 0x80)).map fun byte => Char.ofNat byte.toNat

/-- The list without its longest end of elements in a class. -/
def stripEnd {α : Type} (inClass : α → Bool) (items : List α) : List α :=
  (items.reverse.dropWhile inClass).reverse

/-- Takes a text field of `n` elements without its padding: first the NULs at the end, then the
white space before them. -/
def readAscii (n : Int) : Move (Span ε) τ String := do
  let chars := asciiChars (← take n)
  return String.ofList (stripEnd Unicode.isBlank (stripEnd (· == '\x00') chars))

/-- Takes an unsigned number, most significant byte first. -/
def uint (width : Int) : Move (Span ε) τ Nat := do
  return ofBigEndian (← take width)

/-- The number whose two's complement these bytes are, most significant first. -/
def ofTwosComplement (bytes : List UInt8) : Int :=
  match bytes with
  | [] => 0
  | first :: _ =>
    if first < 0x80 then ofBigEndian bytes
    else (ofBigEndian bytes : Int) - Nat.pow 256 bytes.length

/-- Takes a signed number, most significant byte first. -/
def sint (width : Int) : Move (Span ε) τ Int := do
  return ofTwosComplement (← take width)

/-- The memory of `width` elements, which has to be `width` bytes. The elements are behind the
cursor when it turns out not to be. -/
def takeExact (width : Nat) : Move (Span ε) τ (List UInt8) := do
  let bytes ← take width
  if bytes.length = width then return bytes
  else throw (.wrongSize width)

/-- The bits of the double-precision number that equals a single-precision one. The exponent is
moved to the wider range, and a subnormal number, which is normal there, gets its leading bit back
as exponent. -/
def widenSingle (bits : Nat) : Nat :=
  let sign := bits >>> 31 <<< 63
  let exponent := bits >>> 23 % 0x100
  let fraction := bits % 0x800000
  if exponent = 255 then sign + 2047 <<< 52 + fraction <<< 29
  else if exponent = 0 then
    if fraction = 0 then sign
    else
      let leading := fraction.log2
      sign + (leading + 874) <<< 52 + (fraction - 1 <<< leading) <<< (52 - leading)
  else sign + (exponent + 896) <<< 52 + fraction <<< 29

/-- Takes a single-precision number, as the bits of the same double-precision one. -/
def f32 : Move (Span ε) τ Nat := do
  return widenSingle (ofBigEndian (← takeExact 4))

/-- Takes the bits of a double-precision number. -/
def f64 : Move (Span ε) τ Nat := do
  return ofBigEndian (← takeExact 8)

end Scanning.Span
