import Scanning.Move.Tested

namespace Scanning

/-- What can be asked of a cursor over `σ` with elements `ε` and tests that remember a `τ`. -/
inductive Operation (σ τ ε : Type) where
  | isAtEnd
  | remainder
  | consumedSince (start : Int)
  | advance
  | advanceBy (distance : Int)
  | advanceWhile (test : Test τ ε)
  | advanceInspecting (test : Inspection σ τ ε)
  | peek
  | peek2
  | peek3
  | hasPrefix (element : ε)
  | startsWith (elements : List ε)
  | pop
  | popElement (element : ε)
  | popWhere (test : Test τ ε)
  | read (count : Int)
  | readPrefix (elements : List ε)
  | readWhile (test : Test τ ε)

/-- What an operation answers: nothing, a verdict, some of the next elements, or a piece of the
subject. -/
inductive Answer (ε : Type) where
  | nothing
  | verdict (holds : Bool)
  | element (found : Option ε)
  | pair (found : Option (ε × ε))
  | triple (found : Option (ε × ε × ε))
  | piece (found : Option (List ε))
  deriving DecidableEq, Repr

variable {σ τ ε : Type} [IndexSpace σ ε] [BEq ε]

/-- The move that an operation makes. -/
def Operation.move : Operation σ τ ε → Move σ τ (Answer ε)
  | isAtEnd => .verdict <$> Move.isAtEnd
  | remainder => (.piece ∘ some) <$> Move.remainder
  | consumedSince start => (.piece ∘ some) <$> Move.consumedSince start
  | advance => (fun _ => .nothing) <$> Move.advance
  | advanceBy distance => (fun _ => .nothing) <$> Move.advanceBy distance
  | advanceWhile test => (fun _ => .nothing) <$> Move.advanceWhile test
  | advanceInspecting test => (fun _ => .nothing) <$> Move.advanceInspecting test
  | peek => .element <$> Move.peek
  | peek2 => .pair <$> Move.peek2
  | peek3 => .triple <$> Move.peek3
  | hasPrefix element => .verdict <$> Move.hasPrefix element
  | startsWith elements => .verdict <$> Move.startsWith elements
  | pop => .element <$> Move.pop
  | popElement element => .verdict <$> Move.popElement element
  | popWhere test => .element <$> Move.popWhere test
  | read count => .piece <$> Move.read count
  | readPrefix elements => .verdict <$> Move.readPrefix elements
  | readWhile test => (.piece ∘ some) <$> Move.readWhile test

end Scanning
