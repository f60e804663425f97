import Scanning.Unicode.Classes

namespace Scanning.Text

/-- The last `width` hexadecimal digits of `n` in lower case, most significant first. -/
def hexDigits (width n : Nat) : String :=
  String.ofList ((List.range width).reverse.map fun place => Nat.digitChar (n / Nat.pow 16 place % 16))

/-- Bytes as two digits each. -/
def hexBytes (bytes : List UInt8) : String :=
  String.join (bytes.map fun byte => hexDigits 2 byte.toNat)

/-- The escape of a character that is not printable: the shortest form that holds its code. -/
def escapeCode (code : Nat) : String :=
  if code < 0x100 then "\\x" ++ hexDigits 2 code
  else if code < 0x10000 then "\\u" ++ hexDigits 4 code
  else "\\U" ++ hexDigits 8 code

/-- The character as it stands between the quotes. -/
def escaped (c : Char) : String :=
  if c == '\\' then "\\\\"
  else if c == '\n' then "\\n"
  else if c == '\r' then "\\r"
  else if c == '\t' then "\\t"
  else if Unicode.isPrintable c then String.singleton c
  else escapeCode c.toNat

/-- The character between quotes. -/
def quoted (c : Char) : String :=
  if c == '\'' then "\"'\"" else "'" ++ escaped c ++ "'"

/-- The text between quotes. A single quote is escaped only when double quotes occur beside it. -/
def quotedText (text : String) : String :=
  let chars := text.toList
  if chars.contains '\'' && !chars.contains '"' then
    "\"" ++ String.join (chars.map escaped) ++ "\""
  else
    let shown c := if c == '\'' then "\\'" else escaped c
    "'" ++ String.join (chars.map shown) ++ "'"

end Scanning.Text
