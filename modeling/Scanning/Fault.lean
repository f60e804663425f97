import Scanning.Utf8
import Scanning.Text.Quoted

namespace Scanning

/-- What a plain sequence is made of. -/
inductive SequenceKind where
  | text
  | bytes
  | mutableBytes
  | list
  | tuple
  | span
  deriving DecidableEq, Repr

/-- A move or a position outside the indices of a subject. -/
inductive OutOfBounds where
  | subjectExhausted
  | spanExhausted
  | pastIndex (index : Int) (endIndex : Nat)
  | pastByte (index : Int) (endIndex : Nat)
  | pastEither (distance index : Int) (endIndex : Nat)
  | beforeStart
  | position (index : Int) (endIndex : Nat)
  deriving DecidableEq, Repr

/-- The wording of a move or a position outside the subject. -/
def OutOfBounds.message : OutOfBounds → String
  | subjectExhausted => "advance() called at end of subject"
  | spanExhausted => "advance() called at end of span"
  | pastIndex index endIndex => s!"cannot advance past index {index} (end {endIndex})"
  | pastByte index endIndex => s!"cannot advance past byte offset {index} (end {endIndex})"
  | pastEither distance index endIndex =>
    s!"offset {distance} from {index} leaves [0, {endIndex}]"
  | beforeStart => "cannot move before the start of the view"
  | position index endIndex => s!"position {index} outside [0, {endIndex}]"

/-- What a reader of structured input complains about. -/
inductive Complaint where
  | stated (text : String)
  | unterminatedString
  | unexpectedCharacter (c : Char)
  | underrun (need left : Int)
  | truncatedFrame (need left : Int)
  deriving DecidableEq, Repr

/-- The wording of a read that asks for more than is left. -/
def underrunText (need left : Int) : String := s!"underrun: need {need}, left {left}"

/-- The wording of a complaint. -/
def Complaint.message : Complaint → String
  | stated text => text
  | unterminatedString => "unterminated string"
  | unexpectedCharacter c => "unexpected character " ++ Text.quoted c
  | underrun need left => underrunText need left
  | truncatedFrame need left => "truncated frame: " ++ underrunText need left

/-- Which reader complains. -/
inductive Reader where
  | general
  | span
  | lexer
  | frames
  deriving DecidableEq, Repr

/-- The input of a reader is not what it has to be, at an offset where one is known. -/
structure ParseFailure where
  reader : Reader
  complaint : Complaint
  offset : Option Int
  deriving DecidableEq, Repr

/-- The complaint, followed by the offset where one is known. -/
def ParseFailure.message (failure : ParseFailure) : String :=
  match failure.offset with
  | some offset => failure.complaint.message ++ s!" (at offset {offset})"
  | none => failure.complaint.message

/-- Why the value of a record's field is refused. -/
inductive FieldCause where
  | missing
  | notBoolean
  | unreadableBoolean
  | notInteger
  | unreadableInteger
  | fractionalInteger
  | below (least : Int)
  | above (greatest : Int)
  | notText
  | notBytes
  | noTokenKind
  | notObject
  | blankCommentPrefix
  deriving DecidableEq, Repr

/-- The short name of a cause. -/
def FieldCause.code : FieldCause → String
  | missing => "missing"
  | notBoolean => "bool_type"
  | unreadableBoolean => "bool_parsing"
  | notInteger => "int_type"
  | unreadableInteger => "int_parsing"
  | fractionalInteger => "int_from_float"
  | below _ => "greater_than_equal"
  | above _ => "less_than_equal"
  | notText => "string_type"
  | notBytes => "bytes_type"
  | noTokenKind => "enum"
  | notObject => "dict_type"
  | blankCommentPrefix => "value_error"

/-- The wording of a cause. -/
def FieldCause.message : FieldCause → String
  | missing => "Field required"
  | notBoolean => "Input should be a valid boolean"
  | unreadableBoolean => "Input should be a valid boolean, unable to interpret input"
  | notInteger => "Input should be a valid integer"
  | unreadableInteger =>
    "Input should be a valid integer, unable to parse string as an integer"
  | fractionalInteger =>
    "Input should be a valid integer, got a number with a fractional part"
  | below least => s!"Input should be greater than or equal to {least}"
  | above greatest => s!"Input should be less than or equal to {greatest}"
  | notText => "Input should be a valid string"
  | notBytes => "Input should be a valid bytes"
  | noTokenKind =>
    "Input should be 'word', 'number', 'string', 'punct', 'space' or 'comment'"
  | notObject => "Input should be a valid dictionary"
  | blankCommentPrefix => "Value error, comment_prefix must be non-blank"

/-- A refused field: the way to it from the record, and the cause. -/
structure FieldFault where
  path : List String
  cause : FieldCause
  deriving DecidableEq, Repr

/-- Subjects that patterns cannot be matched on. -/
inductive Unmatchable where
  | list
  | tuple
  | scalarView
  deriving DecidableEq, Repr

/-- What such a subject is called. -/
def Unmatchable.name : Unmatchable → String
  | list => "list"
  | tuple => "tuple"
  | scalarView => "UnicodeScalarView"

/-- Why a file cannot be read. -/
inductive FileFault where
  | missing
  | directory
  /-- A step of the path is no directory. -/
  | notDirectory
  | nulInPath
  deriving DecidableEq, Repr

/-- The numbers that a machine has formats for. -/
inductive MachineNumber where
  | signedChar
  | unsignedByte
  | short
  | unsignedShort
  | int
  | unsignedInt
  | long
  | unsignedLong
  | longLong
  | unsignedLongLong
  deriving DecidableEq, Repr

/-- Why a number is refused, by the machine number that it cannot be and by whether it is below
the least of these or above the greatest. -/
def MachineNumber.refusal : MachineNumber → (isBelow : Bool) → String
  | signedChar, isBelow => "signed char is " ++ beyond isBelow
  | unsignedByte, isBelow => "unsigned byte integer is " ++ beyond isBelow
  | short, isBelow => "signed short integer is " ++ beyond isBelow
  | unsignedShort, isBelow => "unsigned short is " ++ beyond isBelow
  | int, isBelow => "signed integer is " ++ beyond isBelow
  | unsignedInt, isBelow => "unsigned int is " ++ beyond isBelow
  | long, _ => "Python int too large to convert to C long"
  | unsignedLong, true => "can't convert negative value to unsigned int"
  | unsignedLong, false => "Python int too large to convert to C unsigned long"
  | unsignedLongLong, true => "can't convert negative int to unsigned"
  | longLong, _ | unsignedLongLong, false => "int too big to convert"
where
  beyond (isBelow : Bool) : String :=
    if isBelow then "less than minimum" else "greater than maximum"

/-- Why an operation fails. A failure is its cause; the wording of all causes stands beside it. -/
inductive Fault where
  /-- A move or a position outside the subject. -/
  | outOfBounds (cause : OutOfBounds)
  /-- An index at which the subject has no element. -/
  | noElement (kind : SequenceKind)
  /-- Bytes that are no UTF-8. -/
  | malformed (stretch : Utf8.Malformed)
  | negativeCount (count : Int)
  /-- A number that does not fit into a byte. -/
  | notAByte
  /-- A list that would be bytes holds such a number. -/
  | notAllBytes
  /-- A value of the wrong kind. -/
  | unsuitable
  | unmatchable (subject : Unmatchable)
  /-- A pattern over the other alphabet than the subject's. -/
  | patternAlphabet (patternIsText : Bool)
  | badPattern
  | invalidFields (faults : List FieldFault)
  | parse (failure : ParseFailure)
  /-- A test that the caller supplied has failed. -/
  | raised
  /-- The precondition of an unchecked operation does not hold. -/
  | unmet
  /-- The memory of a span is used after its release. -/
  | released
  | readOnly
  | singleOwner
  /-- A resize while slices of the memory are held. -/
  | resizeHeldBytes
  | resizeHeldArray
  | arrayIndex
  /-- An item of memory that cannot be changed, or one more of them. -/
  | fixedItem
  | fixedSize
  /-- A number that is none of these machine numbers. -/
  | outsideNumber (number : MachineNumber) (isBelow : Bool)
  /-- A fixed-size number is read from memory of another size. -/
  | wrongSize (expected : Nat)
  | tagTooBig
  | tagNegative
  | unreadable (cause : FileFault) (path : String)
  deriving DecidableEq, Repr

/-- One byte is shown with its value, several as a range whose last byte is included. -/
def Utf8.Malformed.message (stretch : Malformed) : String :=
  let reason := match stretch.defect with
    | .invalidStart => "invalid start byte"
    | .invalidContinuation => "invalid continuation byte"
    | .unexpectedEnd => "unexpected end of data"
  if stretch.stop = stretch.start + 1 then
    "'utf-8' codec can't decode byte 0x" ++ Text.hexDigits 2 stretch.lead.toNat
      ++ s!" in position {stretch.start}: {reason}"
  else
    s!"'utf-8' codec can't decode bytes in position {stretch.start}-"
      ++ s!"{stretch.stop - 1}: {reason}"

/-- How the elements of a sequence are called where an index misses them. -/
def SequenceKind.missing : SequenceKind → String
  | text => "string index out of range"
  | bytes => "index out of range"
  | mutableBytes => "bytearray index out of range"
  | list => "list index out of range"
  | tuple => "tuple index out of range"
  | span => "index out of bounds on dimension 1"

/-- The wording for a file, which names its path. -/
def FileFault.message (path : String) : FileFault → String
  | missing => "[Errno 2] No such file or directory: " ++ Text.quotedText path
  | directory => "[Errno 21] Is a directory: " ++ Text.quotedText path
  | notDirectory => "[Errno 20] Not a directory: " ++ Text.quotedText path
  | nulInPath => "embedded null byte"

/-- The text of a failure; empty for those that carry none. -/
def Fault.message : Fault → String
  | outOfBounds cause => cause.message
  | noElement kind => kind.missing
  | malformed stretch => stretch.message
  | negativeCount count => s!"count must be non-negative, got {count}"
  | notAByte => "byte must be in range(0, 256)"
  | notAllBytes => "bytes must be in range(0, 256)"
  | unsuitable => "value of an unsuitable kind"
  | unmatchable subject =>
    "pattern matching needs a str or bytes subject, not " ++ subject.name
  | patternAlphabet true => "cannot use a string pattern on a bytes-like object"
  | patternAlphabet false => "cannot use a bytes pattern on a string-like object"
  | badPattern => ""
  | invalidFields _ => ""
  | parse failure => failure.message
  | raised => "boom"
  | unmet => ""
  | released => "operation forbidden on released memoryview object"
  | readOnly => "cannot modify read-only memory"
  | singleOwner => "SpanCursor cannot be copied"
  | resizeHeldBytes => "Existing exports of data: object cannot be re-sized"
  | resizeHeldArray => "cannot resize an array that is exporting buffers"
  | arrayIndex => "array assignment index out of range"
  | fixedItem => "'bytes' object does not support item assignment"
  | fixedSize => "'bytes' object has no attribute 'append'"
  | outsideNumber number isBelow => number.refusal isBelow
  | wrongSize expected => s!"unpack requires a buffer of {expected} bytes"
  | tagTooBig => "int too big to convert"
  | tagNegative => "can't convert negative int to unsigned"
  | unreadable cause path => cause.message path

/-- Two attempts in a row succeed exactly if the first does and the second does with its result. -/
theorem Fault.bind_eq_ok {α β : Type} {attempt : Except Fault α} {f : α → Except Fault β} {b : β} :
    (attempt >>= f) = .ok b ↔ ∃ a, attempt = .ok a ∧ f a = .ok b := by
  cases attempt <;> simp [bind, Except.bind]

/-- An attempt whose result is put through a function succeeds exactly if the attempt does. -/
theorem Fault.map_eq_ok {α β : Type} {f : α → β} {attempt : Except Fault α} {b : β} :
    f <$> attempt = .ok b ↔ ∃ a, attempt = .ok a ∧ f a = b := by
  cases attempt <;> simp [Functor.map, Except.map]

end Scanning
