import Scanning.Unicode.Classes

namespace Scanning.Lexer

/-- What the lexer can be told: which tokens to drop, what begins a comment, which characters are
punctuation or quotes, and how many tokens to give at most. -/
structure Config where
  keepWhitespace : Bool := false
  keepComments : Bool := false
  commentPrefix : String := "#"
  punctuation : String := "()[]\x7b\x7d<>.,;:=+-*/%!?&|^~@$"
  quoteChars : String := "\"'"
  maxTokens : Option Nat := none
  deriving DecidableEq, Repr

/-- A comment prefix has to show something: it is neither empty nor white space throughout. -/
def isBlankPrefix (text : String) : Bool :=
  text.isEmpty || Unicode.everyChar Unicode.isBlank text

/-- The configurations that pass the checks on their fields. -/
def Config.Accepted (config : Config) : Prop :=
  isBlankPrefix config.commentPrefix = false ∧ ∀ most ∈ config.maxTokens, 1 ≤ most

end Scanning.Lexer
