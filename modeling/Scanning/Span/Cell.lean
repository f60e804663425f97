import Scanning.Fault

namespace Scanning

/-- The last `width` bytes of a number, least significant first. -/
def littleEndian : Nat → Nat → List UInt8
  | 0, _ => []
  | width + 1, n => UInt8.ofNat n :: littleEndian width (n / 256)

/-- The number whose bytes these are, most significant first. -/
def ofBigEndian (bytes : List UInt8) : Nat :=
  bytes.foldl (fun n byte => n * 256 + byte.toNat) 0

/-- The last `width` bytes of a number, most significant first. -/
def bigEndian (width n : Nat) : List UInt8 := (littleEndian width n).reverse

/-- Elements that stand in memory as bytes. -/
class Stored (ε : Type) where
  bytes : ε → List UInt8

instance : Stored UInt8 := ⟨fun byte => [byte]⟩

/-- The formats of array elements: signed or not, and how many bytes wide. -/
structure CellFormat where
  signed : Bool
  width : Nat
  deriving DecidableEq, Repr

namespace CellFormat

/-- The least number of a format. -/
def least (format : CellFormat) : Int :=
  if format.signed then -(Nat.pow 2 (8 * format.width - 1)) else 0

/-- The greatest number of a format. -/
def greatest (format : CellFormat) : Int :=
  Nat.pow 2 (8 * format.width - if format.signed then 1 else 0) - 1

/-- A number that the format has room for. -/
def Holds (format : CellFormat) (value : Int) : Prop :=
  format.least ≤ value ∧ value ≤ format.greatest

instance (format : CellFormat) (value : Int) : Decidable (format.Holds value) :=
  inferInstanceAs (Decidable (_ ∧ _))

end CellFormat

namespace MachineNumber

/-- The format in which a machine number stands in memory. -/
def format : MachineNumber → CellFormat
  | signedChar => ⟨true, 1⟩
  | unsignedByte => ⟨false, 1⟩
  | short => ⟨true, 2⟩
  | unsignedShort => ⟨false, 2⟩
  | int => ⟨true, 4⟩
  | unsignedInt => ⟨false, 4⟩
  | long | longLong => ⟨true, 8⟩
  | unsignedLong | unsignedLongLong => ⟨false, 8⟩

/-- Refuses what is no such machine number. -/
def check (number : MachineNumber) (value : Int) : Except Fault Unit :=
  if value < number.format.least then .error (.outsideNumber number true)
  else if number.format.greatest < value then .error (.outsideNumber number false)
  else .ok ()

/-- Refuses what one of these is not, for the first of them. -/
def checkAll (value : Int) : List MachineNumber → Except Fault Unit
  | [] => .ok ()
  | number :: others => do
    number.check value
    checkAll value others

end MachineNumber

/-- The machine numbers that a number is turned into, one after the other, on its way into an item
of this format. Only the last of them need be of the format itself. -/
def CellFormat.conversions : CellFormat → List MachineNumber
  | ⟨true, 1⟩ => [.long, .short, .signedChar]
  | ⟨false, 1⟩ => [.long, .unsignedByte]
  | ⟨true, 2⟩ => [.long, .short]
  | ⟨false, 2⟩ => [.long, .int, .unsignedShort]
  | ⟨true, 4⟩ => [.long, .int]
  | ⟨false, 4⟩ => [.unsignedLong, .unsignedInt]
  | ⟨true, _⟩ => [.longLong]
  | ⟨false, _⟩ => [.unsignedLongLong]

/-- A number in memory. -/
structure Cell where
  format : CellFormat
  value : Int
  deriving DecidableEq, Repr

namespace Cell

/-- A number as an item of a format. What does not fit is refused at the first machine number on
the way that it cannot be. -/
def ofNumber (format : CellFormat) (value : Int) : Except Fault Cell := do
  MachineNumber.checkAll value format.conversions
  return ⟨format, value⟩

/-- The format of single bytes. -/
def byteFormat : CellFormat := ⟨false, 1⟩

/-- A byte as an item of memory. -/
def ofByte (byte : UInt8) : Cell := ⟨byteFormat, byte.toNat⟩

/-- Negative numbers are stored as their two's complement. -/
instance : Stored Cell :=
  ⟨fun cell =>
    littleEndian cell.format.width (cell.value % Nat.pow 256 cell.format.width).toNat⟩

end Cell

end Scanning
