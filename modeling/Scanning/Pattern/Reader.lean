import Scanning.Pattern.Syntax
import Scanning.Unicode.Classes

namespace Scanning.Pattern

/-- What the reader knows of the groups it has met. -/
structure GroupTable where
  /-- The number of groups so far. -/
  count : Nat := 0
  /-- The groups that are not closed yet. -/
  unclosed : List Nat := []
  names : List (String × Nat) := []
  widths : List (Nat × (Nat × Option Nat)) := []
  /-- Inside an assertion on what is in front: the number of groups before it. -/
  limit : Option Nat := none

/-- A piece of a pattern and whether it can be repeated. -/
structure Item where
  node : Node
  repeatable : Bool := true

/-- Pieces one after the other. -/
def sequenceOf : List Node → Node
  | [] => .empty
  | [node] => node
  | node :: nodes => .sequence node (sequenceOf nodes)

/-- A hexadecimal digit. -/
def hexDigit? (c : Char) : Option Nat :=
  if c.isDigit then some (c.toNat - 48)
  else if 'a' ≤ c ∧ c ≤ 'f' then some (c.toNat - 87)
  else if 'A' ≤ c ∧ c ≤ 'F' then some (c.toNat - 55)
  else none

/-- A digit of an octal escape. -/
def isOctalDigit (c : Char) : Bool := '0' ≤ c && c ≤ '7'

/-- Exactly that many hexadecimal digits. -/
def hexCode? (width : Nat) (chars : List Char) : Option (Nat × List Char) := do
  let digits ← (chars.take width).mapM hexDigit?
  if digits.length = width then
    return (digits.foldl (fun n d => n * 16 + d) 0, chars.drop width)
  else failure

/-- The number that octal digits mean. -/
def octalCode (digits : List Char) : Nat :=
  digits.foldl (fun n d => n * 8 + (d.toNat - 48)) 0

/-- The control characters that have an escape. -/
def controlCode? : Char → Option Nat
  | 'a' => some 0x07
  | 'f' => some 0x0C
  | 'n' => some 0x0A
  | 'r' => some 0x0D
  | 't' => some 0x09
  | 'v' => some 0x0B
  | '\\' => some 0x5C
  | _ => none

/-- The classes that have an escape. -/
def categoryItem? : Char → Option SetItem
  | 'd' => some (.category .digit false)
  | 'D' => some (.category .digit true)
  | 's' => some (.category .space false)
  | 'S' => some (.category .space true)
  | 'w' => some (.category .word false)
  | 'W' => some (.category .word true)
  | _ => none

/-- The anchors that have an escape. -/
def anchor? : Char → Option Anchor
  | 'A' => some .textStart
  | 'b' => some .wordBoundary
  | 'B' => some .noWordBoundary
  | 'Z' => some .textEnd
  | _ => none

/-- An escape by a code in hexadecimal digits. The long forms are for texts only. -/
def codeEscape? (alphabet : Alphabet) (c : Char) (rest : List Char) :
    Option (Nat × List Char) :=
  if c = 'x' then hexCode? 2 rest
  else if c = 'u' ∧ alphabet = .text then hexCode? 4 rest
  else if c = 'U' ∧ alphabet = .text then do
    let (code, rest) ← hexCode? 8 rest
    if code < 0x110000 then return (code, rest) else failure
  else none

/-- What an escape means in a set. -/
def readSetEscape (alphabet : Alphabet) : List Char → Option (SetItem × List Char)
  | [] => none
  | c :: rest =>
    if c = 'b' then some (.one 0x08, rest)
    else match controlCode? c, categoryItem? c with
      | some code, _ => some (.one code, rest)
      | _, some item => some (item, rest)
      | none, none =>
        if c = 'x' ∨ c = 'u' ∨ c = 'U' then do
          let (code, rest) ← codeEscape? alphabet c rest
          return (.one code, rest)
        else if isOctalDigit c then
          let digits := c :: (rest.take 2).takeWhile isOctalDigit
          if octalCode digits ≤ 0o377 then
            some (.one (octalCode digits), rest.drop (digits.length - 1))
          else none
        else if c.isAlphanum then none
        else some (.one c.toNat, rest)

/-- One member of a set. -/
def readSetMember (alphabet : Alphabet) : List Char → Option (SetItem × List Char)
  | [] => none
  | '\\' :: rest => readSetEscape alphabet rest
  | c :: rest => some (.one c.toNat, rest)

/-- The members of a set up to its bracket. A bracket that comes first is a member. -/
def readSet (alphabet : Alphabet) : Nat → List SetItem → List Char →
    Option (List SetItem × List Char)
  | 0, _, _ => none
  | fuel + 1, items, chars =>
    match chars with
    | ']' :: rest =>
      if items.isEmpty then readRange fuel items chars else some (items.reverse, rest)
    | _ => readRange fuel items chars
where
  /-- A member, or two members with a hyphen between as a range. -/
  readRange (fuel : Nat) (items : List SetItem) (chars : List Char) :
      Option (List SetItem × List Char) := do
    let (item, rest) ← readSetMember alphabet chars
    match rest with
    | '-' :: ']' :: rest => return ((.one 0x2D :: item :: items).reverse, rest)
    | '-' :: rest =>
      let (upper, rest) ← readSetMember alphabet rest
      match item, upper with
      | .one low, .one high =>
        if low ≤ high then readSet alphabet fuel (.range low high :: items) rest else none
      | _, _ => none
    | _ => readSet alphabet fuel (item :: items) rest

/-- A reference to a group, which has to be closed and to lie before the assertion that it
stands in. -/
def GroupTable.reference? (table : GroupTable) (number : Nat) : Option Item :=
  if 0 < number ∧ number ≤ table.count ∧ number ∉ table.unclosed
      ∧ table.limit.all (number ≤ ·) then
    some ⟨.reference number, true⟩
  else none

/-- What an escape means outside sets. A number is a reference, unless it begins with a zero or has
three octal digits. -/
def readEscape (alphabet : Alphabet) (table : GroupTable) :
    List Char → Option (Item × List Char)
  | [] => none
  | c :: rest =>
    match anchor? c, categoryItem? c, controlCode? c with
    | some condition, _, _ => some (⟨.anchor condition, false⟩, rest)
    | _, some item, _ => some (⟨.set false [item], true⟩, rest)
    | _, _, some code => some (⟨.unit code, true⟩, rest)
    | none, none, none =>
      if c = 'x' ∨ c = 'u' ∨ c = 'U' then do
        let (code, rest) ← codeEscape? alphabet c rest
        return (⟨.unit code, true⟩, rest)
      else if c = '0' then
        let digits := (rest.take 2).takeWhile isOctalDigit
        some (⟨.unit (octalCode digits), true⟩, rest.drop digits.length)
      else if c.isDigit then
        match rest with
        | second :: rest' =>
          if second.isDigit then
            match rest' with
            | third :: rest'' =>
              if isOctalDigit c && isOctalDigit second && isOctalDigit third then
                let code := octalCode [c, second, third]
                if code ≤ 0o377 then some (⟨.unit code, true⟩, rest'') else none
              else twoDigits c second rest'
            | [] => twoDigits c second rest'
          else oneDigit c rest
        | [] => oneDigit c rest
      else if c.isAlpha then none
      else some (⟨.unit c.toNat, true⟩, rest)
where
  oneDigit (c : Char) (rest : List Char) : Option (Item × List Char) := do
    return (← table.reference? (c.toNat - 48), rest)
  twoDigits (c second : Char) (rest : List Char) : Option (Item × List Char) := do
    return (← table.reference? ((c.toNat - 48) * 10 + (second.toNat - 48)), rest)

/-- The number that decimal digits mean; nothing if there are none. -/
def count? (digits : List Char) : Option Nat :=
  if digits.isEmpty then none
  else some (digits.foldl (fun n d => n * 10 + (d.toNat - 48)) 0)

/-- The bounds in braces behind the opening one, if braces and bounds are complete. -/
def readBounds (chars : List Char) : Option (Nat × Option Nat × List Char) :=
  let low := chars.takeWhile Char.isDigit
  match chars.drop low.length with
  | '}' :: rest =>
    if low.isEmpty then none else some ((count? low).getD 0, count? low, rest)
  | ',' :: rest =>
    let high := rest.takeWhile Char.isDigit
    match rest.drop high.length with
    | '}' :: rest => some ((count? low).getD 0, count? high, rest)
    | _ => none
  | _ => none

/-- The bounds of a repetition, if one begins here. -/
def readQuantifier : List Char → Option (Nat × Option Nat × List Char)
  | '*' :: rest => some (0, none, rest)
  | '+' :: rest => some (1, none, rest)
  | '?' :: rest => some (0, some 1, rest)
  | '{' :: rest => readBounds rest
  | _ => none

/-- The mark behind a repetition that says how eager it is. -/
def readGreed : List Char → Greed × List Char
  | '?' :: rest => (.lazy, rest)
  | '+' :: rest => (.possessive, rest)
  | rest => (.greedy, rest)

/-- Whether a text can name a group. -/
def isName (name : List Char) : Bool :=
  match name with
  | [] => false
  | c :: rest =>
    (Unicode.isLetter c || c == '_') && rest.all fun c => Unicode.isAlphanumeric c || c == '_'

/-- The text up to a character that has to come, and what is behind it. -/
def splitAt? (mark : Char) (chars : List Char) : Option (List Char × List Char) :=
  let before := chars.takeWhile (· != mark)
  match chars.drop before.length with
  | _ :: rest => some (before, rest)
  | [] => none

mutual

/-- Alternatives, up to the end or an unmatched bracket. The counter is an upper bound for the depth
of reading; the length of the pattern suffices, twice over. -/
def readChoice (alphabet : Alphabet) : Nat → GroupTable → List Char →
    Option (Node × GroupTable × List Char)
  | 0, _, _ => none
  | fuel + 1, table, chars => do
    let (first, table, rest) ← readItems alphabet fuel [] table chars
    match rest with
    | '|' :: rest =>
      let (second, table, rest) ← readChoice alphabet fuel table rest
      return (.choice first second, table, rest)
    | _ => return (first, table, rest)

/-- Pieces one after the other; those before, in reverse order, are given. -/
def readItems (alphabet : Alphabet) : Nat → List Item → GroupTable → List Char →
    Option (Node × GroupTable × List Char)
  | 0, _, _, _ => none
  | fuel + 1, items, table, chars =>
    match chars with
    | [] => some (sequenceOf (items.reverse.map Item.node), table, [])
    | c :: rest =>
      if c = '|' ∨ c = ')' then
        some (sequenceOf (items.reverse.map Item.node), table, chars)
      else match readQuantifier chars with
        | some (least, most, rest) =>
          match items with
          | item :: items =>
            if item.repeatable && most.all (least ≤ ·) then
              let (greed, rest) := readGreed rest
              readItems alphabet fuel (⟨.repetition least most greed item.node, false⟩ :: items)
                table rest
            else none
          | [] => none
        | none =>
          if c = '(' then do
            let (item, table, rest) ← readGroup alphabet fuel table rest
            readItems alphabet fuel (item.toList ++ items) table rest
          else if c = '*' ∨ c = '+' ∨ c = '?' then none
          else do
            let (item, rest) ← readSimple alphabet table fuel c rest
            readItems alphabet fuel (item :: items) table rest

/-- What stands in a group, behind its opening bracket. A comment is no piece at all. -/
def readGroup (alphabet : Alphabet) : Nat → GroupTable → List Char →
    Option (Option Item × GroupTable × List Char)
  | 0, _, _ => none
  | fuel + 1, table, chars =>
    match chars with
    | '?' :: 'P' :: '<' :: rest => do
      let (name, rest) ← splitAt? '>' rest
      if isName name && (table.names.lookup (String.ofList name)).isNone then
        capture fuel (some (String.ofList name)) table rest
      else failure
    | '?' :: 'P' :: '=' :: rest => do
      let (name, rest) ← splitAt? ')' rest
      let number ← table.names.lookup (String.ofList name)
      return (some (← table.reference? number), table, rest)
    | '?' :: '#' :: rest => do
      let (_, rest) ← splitAt? ')' rest
      return (none, table, rest)
    | '?' :: ':' :: rest => do
      let (body, table, rest) ← bracketed fuel table rest
      return (some ⟨body, true⟩, table, rest)
    | '?' :: '>' :: rest => do
      let (body, table, rest) ← bracketed fuel table rest
      return (some ⟨.atomic body, true⟩, table, rest)
    | '?' :: '=' :: rest => do
      let (body, table, rest) ← bracketed fuel table rest
      return (some ⟨.ahead false body, true⟩, table, rest)
    | '?' :: '!' :: rest => do
      let (body, table, rest) ← bracketed fuel table rest
      return (some ⟨.ahead true body, true⟩, table, rest)
    | '?' :: '<' :: '=' :: rest => lookBehind fuel false table rest
    | '?' :: '<' :: '!' :: rest => lookBehind fuel true table rest
    | '?' :: _ => none
    | _ => capture fuel none table chars
where
  /-- Alternatives and the closing bracket. -/
  bracketed (fuel : Nat) (table : GroupTable) (chars : List Char) :
      Option (Node × GroupTable × List Char) := do
    match ← readChoice alphabet fuel table chars with
    | (body, table, ')' :: rest) => return (body, table, rest)
    | _ => failure
  /-- A group with a number of its own, and perhaps a name. -/
  capture (fuel : Nat) (name : Option String) (table : GroupTable) (chars : List Char) :
      Option (Option Item × GroupTable × List Char) := do
    let number := table.count + 1
    let (body, inner, rest) ← bracketed fuel
      { table with
        count := number
        unclosed := number :: table.unclosed
        names := name.toList.map (·, number) ++ table.names } chars
    let width := body.width fun n => (inner.widths.lookup n).getD (0, some 0)
    return (some ⟨.group number body, true⟩,
      { inner with
        unclosed := table.unclosed
        widths := (number, width) :: inner.widths }, rest)
  /-- An assertion on what is in front, which has to have one width. -/
  lookBehind (fuel : Nat) (negated : Bool) (table : GroupTable) (chars : List Char) :
      Option (Option Item × GroupTable × List Char) := do
    let (body, inner, rest) ← bracketed fuel
      { table with limit := table.limit.getD table.count } chars
    let (least, most) := body.width fun n => (inner.widths.lookup n).getD (0, some 0)
    if most = some least then
      return (some ⟨.behind negated least body, true⟩, { inner with limit := table.limit }, rest)
    else failure

/-- A piece that holds no other: a character, a class, an escape or a set. -/
def readSimple (alphabet : Alphabet) (table : GroupTable) : Nat → Char → List Char →
    Option (Item × List Char)
  | 0, _, _ => none
  | fuel + 1, c, rest =>
    if c = '.' then some (⟨.any, true⟩, rest)
    else if c = '^' then some (⟨.anchor .lineStart, false⟩, rest)
    else if c = '$' then some (⟨.anchor .lineEnd, false⟩, rest)
    else if c = '\\' then readEscape alphabet table rest
    else if c = '[' then
      let (negated, rest) := match rest with
        | '^' :: rest => (true, rest)
        | _ => (false, rest)
      do
        let (items, rest) ← readSet alphabet fuel [] rest
        return (⟨.set negated items, true⟩, rest)
    else some (⟨.unit c.toNat, true⟩, rest)

end

/-- The pattern that a text is, if it is one. -/
def Regex.ofText? (alphabet : Alphabet) (options : Options) (text : String) : Option Regex := do
  let chars := text.toList
  match ← readChoice alphabet (2 * chars.length + 2) {} chars with
  | (node, table, []) => return ⟨alphabet, options, table.count, node⟩
  | _ => failure

end Scanning.Pattern
