import Scanning.Lexer.Token

namespace Scanning.Lexer

/-- How many tokens there are: the number of all, and the numbers of each kind in order of first
appearance. -/
structure Summary where
  tokens : Int := 0
  byKind : List (TokenKind × Int) := []
  deriving DecidableEq, Repr

/-- Counts one more of a kind. -/
def countKind (kind : TokenKind) : List (TokenKind × Int) → List (TokenKind × Int)
  | [] => [(kind, 1)]
  | (other, count) :: rest =>
    if other = kind then (other, count + 1) :: rest else (other, count) :: countKind kind rest

/-- The summary of a list of tokens. -/
def Summary.ofTokens (tokens : List Token) : Summary where
  tokens := tokens.length
  byKind := tokens.foldl (fun counts token => countKind token.kind counts) []

end Scanning.Lexer
