namespace Scanning.Utf8

/-- What is wrong with a stretch of bytes that is no UTF-8. Overlong forms, surrogates, code points
above U+10FFFF, stray continuation bytes and truncated sequences are refused. -/
inductive Defect where
  | invalidStart
  | invalidContinuation
  | unexpectedEnd
  deriving DecidableEq, Repr

/-- The bytes from `start` up to `stop`, the first of them `lead`, are no UTF-8. -/
structure Malformed where
  lead : UInt8
  start : Int
  stop : Int
  defect : Defect
  deriving DecidableEq, Repr

/-- How many bytes a sequence with this lead byte has; zero for continuation bytes and for bytes
that begin no sequence (C0, C1, and F5 on). -/
def leadWidth (lead : UInt8) : Nat :=
  if lead < 0x80 then 1
  else if 0xC2 ≤ lead && lead < 0xE0 then 2
  else if 0xE0 ≤ lead && lead < 0xF0 then 3
  else if 0xF0 ≤ lead && lead < 0xF5 then 4
  else 0

/-- Bytes that only stand behind a lead byte. -/
def isContinuation (byte : UInt8) : Bool := 0x80 ≤ byte && byte < 0xC0

/-- Continuation bytes that may stand right behind `lead`: after E0 and F0 the low ones would be
overlong, after ED and F4 the high ones would be surrogates or above U+10FFFF. -/
def mayFollow (lead second : UInt8) : Bool :=
  isContinuation second &&
    (if lead == 0xE0 then 0xA0 ≤ second
    else if lead == 0xED then second < 0xA0
    else if lead == 0xF0 then 0x90 ≤ second
    else if lead == 0xF4 then second < 0x90
    else true)

/-- The six bits that a continuation byte carries. -/
def payload (byte : UInt8) : Nat := byte.toNat % 64

/-- The character whose sequence begins with `lead` and goes on in `rest`, or how many bytes are
malformed and why. Those are the longest part of the sequence that could still have been valid. -/
def decodeScalar (lead : UInt8) (rest : List UInt8) : Except (Nat × Defect) Char :=
  match leadWidth lead, rest with
  | 1, _ => .ok (Char.ofNat lead.toNat)
  | 2, second :: _ =>
    if mayFollow lead second then .ok (Char.ofNat (lead.toNat % 32 * 64 + payload second))
    else .error (1, .invalidContinuation)
  | 3, second :: rest =>
    if mayFollow lead second then
      match rest with
      | third :: _ =>
        if isContinuation third then
          .ok (Char.ofNat ((lead.toNat % 16 * 64 + payload second) * 64 + payload third))
        else .error (2, .invalidContinuation)
      | [] => .error (2, .unexpectedEnd)
    else .error (1, .invalidContinuation)
  | 4, second :: rest =>
    if mayFollow lead second then
      match rest with
      | third :: rest =>
        if isContinuation third then
          match rest with
          | fourth :: _ =>
            if isContinuation fourth then
              .ok (Char.ofNat
                (((lead.toNat % 8 * 64 + payload second) * 64 + payload third) * 64
                  + payload fourth))
            else .error (3, .invalidContinuation)
          | [] => .error (3, .unexpectedEnd)
        else .error (2, .invalidContinuation)
      | [] => .error (2, .unexpectedEnd)
    else .error (1, .invalidContinuation)
  | 0, _ => .error (1, .invalidStart)
  | _, _ => .error (1, .unexpectedEnd)

/-- The characters of the bytes, the first of which counts as byte number `offset`, or the first
malformed stretch. -/
def decodeFrom (offset : Nat) : List UInt8 → Except Malformed (List Char)
  | [] => .ok []
  | lead :: rest =>
    match decodeScalar lead rest with
    | .error (width, defect) => .error ⟨lead, offset, offset + width, defect⟩
    | .ok c => do
      let more ← decodeFrom (offset + leadWidth lead) (rest.drop (leadWidth lead - 1))
      return c :: more
termination_by bytes => bytes.length
decreasing_by
  simp only [List.length_drop, List.length_cons]
  omega

/-- The characters of the bytes, or the first malformed stretch. -/
def decode (bytes : List UInt8) : Except Malformed (List Char) := decodeFrom 0 bytes

/-- The bytes of the characters. -/
def encode (chars : List Char) : List UInt8 := chars.flatMap String.utf8EncodeChar

end Scanning.Utf8
