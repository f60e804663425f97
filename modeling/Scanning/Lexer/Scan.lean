import Scanning.Lexer.Progress

namespace Scanning.Lexer

open IndexSpace Move

variable {σ τ : Type} [IndexSpace σ Char]

/-- Whether tokens of this kind are passed over in silence. -/
def Config.drops (config : Config) : TokenKind → Bool
  | .space => !config.keepWhitespace
  | .comment => !config.keepComments
  | _ => false

/-- The next token that is kept; nothing at the end. -/
def nextKept (config : Config) (subject : σ) (standing : Standing τ) :
    EStateM.Result Fault (Standing τ) (Option Token) :=
  match _ : lexeme config subject standing with
  | .error fault standing' => .error fault standing'
  | .ok none standing' => .ok none standing'
  | .ok (some kind) standing' =>
    if config.drops kind then nextKept config subject standing'
    else match slice subject standing.position standing'.position with
      | .error fault => .error fault standing'
      | .ok chars =>
        .ok (some ⟨kind, String.ofList chars, standing.position, standing'.position⟩) standing'
termination_by ((endIndex subject : Int) - standing.position).toNat
decreasing_by exact (leadsPast_lexeme ‹_›).room_lt

/-- A scan under way: how many tokens it has given, and whether it is over. It does not hold a
cursor; each step works on the cursor that it is given. -/
structure Scanner where
  config : Config
  given : Nat := 0
  finished : Bool := false
  deriving DecidableEq, Repr

/-- Whether the scanner has given as many tokens as it may. -/
def Scanner.isSpent (scanner : Scanner) : Bool :=
  match scanner.config.maxTokens with
  | some most => most ≤ scanner.given
  | none => false

/-- The next token. Once there is none, or scanning has failed, there is never another. -/
def Scanner.next (scanner : Scanner) (subject : σ) (standing : Standing τ) :
    Scanner × EStateM.Result Fault (Standing τ) (Option Token) :=
  if scanner.finished then (scanner, .ok none standing)
  else if scanner.isSpent then ({ scanner with finished := true }, .ok none standing)
  else match nextKept scanner.config subject standing with
    | .ok (some token) standing' =>
      ({ scanner with given := scanner.given + 1 }, .ok (some token) standing')
    | outcome => ({ scanner with finished := true }, outcome)

/-- The next token that is kept ends behind the position of the cursor, however many lexemes were
dropped in front of it. -/
theorem leadsPast_nextKept {config : Config} {subject : σ} {standing standing' : Standing τ}
    {token : Token} (h : nextKept config subject standing = .ok (some token) standing') :
    LeadsPast subject standing.position standing'.position := by
  fun_induction nextKept config subject standing with
  | case1 | case2 | case4 => cases h
  | case3 _ _ _ hl _ ih => exact (leadsPast_lexeme hl).trans_leadsOn (ih h).leadsOn
  | case5 _ _ _ hl =>
    cases h
    exact leadsPast_lexeme hl

/-- A scanner that gives a token has brought its cursor nearer to the end. -/
theorem leadsPast_next {scanner scanner' : Scanner} {subject : σ}
    {standing standing' : Standing τ} {token : Token}
    (h : scanner.next subject standing = (scanner', .ok (some token) standing')) :
    LeadsPast subject standing.position standing'.position := by
  unfold Scanner.next at h
  split at h
  · simp at h
  split at h
  · simp at h
  split at h
  · simp only [Prod.mk.injEq, EStateM.Result.ok.injEq, Option.some.injEq] at h
    obtain ⟨-, rfl, rfl⟩ := h
    exact leadsPast_nextKept ‹_›
  · simp_all

/-- All tokens that the scanner still gives, and how it ends. -/
def Scanner.drain (scanner : Scanner) (subject : σ) (standing : Standing τ) :
    List Token × EStateM.Result Fault (Standing τ) Unit :=
  match _ : scanner.next subject standing with
  | (_, .error fault standing') => ([], .error fault standing')
  | (_, .ok none standing') => ([], .ok () standing')
  | (scanner', .ok (some token) standing') =>
    let (tokens, ending) := scanner'.drain subject standing'
    (token :: tokens, ending)
termination_by ((endIndex subject : Int) - standing.position).toNat
decreasing_by exact (leadsPast_next ‹_›).room_lt

/-- The tokens of a whole subject up to the end or a failure, and that failure. -/
def scanAll (config : Config) (subject : σ) : List Token × Option Fault :=
  match Scanner.drain { config } subject ⟨0, ()⟩ with
  | (tokens, .ok _ _) => (tokens, none)
  | (tokens, .error fault _) => (tokens, some fault)

/-- The tokens of a whole subject. -/
def tokens (config : Config) (subject : σ) : Except Fault (List Token) :=
  match scanAll config subject with
  | (tokens, none) => .ok tokens
  | (_, some fault) => .error fault

/-- The tokens of a text, with offsets in characters. -/
def tokenize (config : Config) (text : String) : Except Fault (List Token) :=
  tokens config (Sequence.ofText text)

/-- The tokens of UTF-8 bytes, with offsets in bytes. -/
def tokenizeBytes (config : Config) (data : Array UInt8) : Except Fault (List Token) :=
  tokens config (ScalarView.mk data)

end Scanning.Lexer
