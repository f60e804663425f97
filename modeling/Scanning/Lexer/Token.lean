namespace Scanning.Lexer

/-- What a token is. -/
inductive TokenKind where
  | word
  | number
  | string
  | punct
  | space
  | comment
  deriving DecidableEq, Repr

namespace TokenKind

/-- What a kind is called. -/
def name : TokenKind → String
  | word => "word"
  | number => "number"
  | string => "string"
  | punct => "punct"
  | space => "space"
  | comment => "comment"

/-- All kinds, in the order in which messages list them. -/
def all : List TokenKind := [word, number, string, punct, space, comment]

/-- The kind with this name. -/
def ofName? (name : String) : Option TokenKind := all.find? (·.name == name)

end TokenKind

/-- A piece of the subject from the index `start` up to the index `stop`. -/
structure Token where
  kind : TokenKind
  text : String
  start : Int
  stop : Int
  deriving DecidableEq, Repr

end Scanning.Lexer
