import Scanning.Text.Quoted

namespace Scanning

/-- JSON documents. They are laid out with one item a line; what is not printable ASCII is escaped,
in two surrogates where one code does not suffice. -/
inductive Document where
  | null
  | bool (b : Bool)
  | int (n : Int)
  | text (s : String)
  | array (items : List Document)
  | object (fields : List (String × Document))
  deriving Repr, Inhabited

namespace Document

/-- The escape of a code unit of sixteen bits. -/
def escapeUnit (unit : Nat) : String := "\\u" ++ Text.hexDigits 4 unit

/-- A character inside a quoted text. -/
def escapeChar (c : Char) : String :=
  if c == '"' then "\\\""
  else if c == '\\' then "\\\\"
  else if c == '\n' then "\\n"
  else if c == '\r' then "\\r"
  else if c == '\t' then "\\t"
  else if c == '\x08' then "\\b"
  else if c == '\x0c' then "\\f"
  else if 0x20 ≤ c.toNat && c.toNat < 0x7F then String.singleton c
  else if c.toNat < 0x10000 then escapeUnit c.toNat
  else
    let rest := c.toNat - 0x10000
    escapeUnit (0xD800 + rest / 0x400) ++ escapeUnit (0xDC00 + rest % 0x400)

/-- A text between quotes. -/
def quote (s : String) : String := "\"" ++ String.join (s.toList.map escapeChar) ++ "\""

/-- The beginning of a line at a depth, two blanks a level. -/
def margin (depth : Nat) : String := "\n" ++ String.ofList (List.replicate (2 * depth) ' ')

mutual

/-- The layout of a document that stands at a depth. -/
def layout (depth : Nat) : Document → String
  | null => "null"
  | bool b => if b then "true" else "false"
  | int n => toString n
  | text s => quote s
  | array [] => "[]"
  | array items => "[" ++ layoutItems (depth + 1) items ++ margin depth ++ "]"
  | object [] => "\x7b\x7d"
  | object fields => "\x7b" ++ layoutFields (depth + 1) fields ++ margin depth ++ "\x7d"

/-- Items of an array, each on its line. -/
def layoutItems (depth : Nat) : List Document → String
  | [] => ""
  | [item] => margin depth ++ item.layout depth
  | item :: items => margin depth ++ item.layout depth ++ "," ++ layoutItems depth items

/-- Fields of an object, each on its line. -/
def layoutFields (depth : Nat) : List (String × Document) → String
  | [] => ""
  | [(name, value)] => margin depth ++ quote name ++ ": " ++ value.layout depth
  | (name, value) :: fields =>
    margin depth ++ quote name ++ ": " ++ value.layout depth ++ "," ++ layoutFields depth fields

end

end Document

end Scanning
