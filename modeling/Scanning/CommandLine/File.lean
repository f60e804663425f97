import Scanning.Fault

namespace Scanning.CommandLine

/-- What a path begins with when it is absolute. Two slashes, but not more, are kept. -/
def rootOf : List Char → String
  | ['/', '/'] => "//"
  | '/' :: '/' :: c :: _ => if c == '/' then "/" else "//"
  | '/' :: _ => "/"
  | _ => ""

/-- A path without empty steps and steps that stay where they are. -/
def plainPath (path : String) : String :=
  let steps := (path.splitOn "/").filter fun step => step != "" && step != "."
  let plain := rootOf path.toList ++ "/".intercalate steps
  if plain.isEmpty then "." else plain

/-- Every line end, also a carriage return with or without a newline behind it, as one newline. -/
def unifyLineEnds : List Char → List Char
  | [] => []
  | '\r' :: '\n' :: rest => '\n' :: unifyLineEnds rest
  | c :: rest => (if c == '\r' then '\n' else c) :: unifyLineEnds rest

/-- The text in a file. -/
def readText (bytes : List UInt8) : Except Fault String :=
  match Utf8.decode bytes with
  | .ok chars => .ok (String.ofList (unifyLineEnds chars))
  | .error stretch => .error (.malformed stretch)

end Scanning.CommandLine
