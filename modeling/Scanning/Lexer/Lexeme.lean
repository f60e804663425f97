import Scanning.Lexer.Config
import Scanning.Lexer.Token
import Scanning.Move.Tested

namespace Scanning.Lexer

open IndexSpace Move Unicode

/-- Two-character operators, which win over single punctuation. -/
def operators : List (List Char) :=
  [['=', '='], ['!', '='], ['<', '='], ['>', '='], ['-', '>'], [':', ':'], ['&', '&'], ['|', '|']]

/-- The characters that a word begins with. -/
def isWordStart (c : Char) : Bool := isLetter c || c == '_'

/-- The characters that a word goes on with. -/
def isWordChar (c : Char) : Bool := isAlphanumeric c || c == '_'

variable {σ τ : Type} [IndexSpace σ Char]

/-- Digits, and a point with more digits if a digit follows the point. -/
def number : Move σ τ Unit := do
  advanceOver isDigit
  match ← peek2 with
  | some (point, digit) =>
    if point == '.' && isDigit digit then
      advance
      advanceOver isDigit
    else
      return ()
  | none => return ()

/-- The failure of a string that begins at `start` and is never closed. -/
def unterminated (start : Int) : Fault := .parse ⟨.lexer, .unterminatedString, some start⟩

/-- The rest of a string that began at `start`, through its closing quote. A backslash takes the
next character, whatever it is. -/
def closeString (quote : Char) (start : Int) (subject : σ) (standing : Standing τ) :
    EStateM.Result Fault (Standing τ) Unit :=
  match _ : takeAt subject standing.position with
  | .error fault => .error fault standing
  | .ok none => .error (unterminated start) standing
  | .ok (some (c, next)) =>
    if c == '\\' then
      match _ : takeAt subject next with
      | .error fault => .error fault { standing with position := next }
      | .ok none => .error (unterminated start) { standing with position := next }
      | .ok (some (_, beyond)) => closeString quote start subject { standing with position := beyond }
    else if c == quote then .ok () { standing with position := next }
    else closeString quote start subject { standing with position := next }
termination_by ((endIndex subject : Int) - standing.position).toNat
decreasing_by
  · have hopen := room_after_lt (after_of_takeAt ‹takeAt subject standing.position = _›)
    have hescape := room_after_lt (after_of_takeAt ‹takeAt subject next = _›)
    exact Nat.lt_trans hescape hopen
  · exact room_after_lt (after_of_takeAt ‹takeAt subject standing.position = _›)

/-- A string with its quotes. -/
def string (quote : Char) : Move σ τ Unit := do
  let start ← position
  advance
  fun subject standing => closeString quote start subject standing

/-- The lexeme that begins with the character `first`, which is the current one. -/
def lexemeFrom (config : Config) (first : Char) : Move σ τ TokenKind :=
  if isBlank first then do
    advanceOver isBlank
    return .space
  else do
    if ← startsWith config.commentPrefix.toList then
      advanceOver (· != '\n')
      return .comment
    else if isDigit first then
      number
      return .number
    else if isWordStart first then
      advanceOver isWordChar
      return .word
    else if config.quoteChars.toList.contains first then
      string first
      return .string
    else if ← readAnyPrefix operators then
      return .punct
    else
      match ← popWhere fun c => return config.punctuation.toList.contains c with
      | some _ => return .punct
      | none => throw (.parse ⟨.lexer, .unexpectedCharacter first, some (← position)⟩)

/-- The next lexeme, of whatever kind; nothing at the end. -/
def lexeme (config : Config) : Move σ τ (Option TokenKind) := do
  match ← peek with
  | some first => some <$> lexemeFrom config first
  | none => return none

end Scanning.Lexer
