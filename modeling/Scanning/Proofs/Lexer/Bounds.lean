import Scanning.Lexer.Scan
import Scanning.Proofs.Move.Bounds

namespace Scanning.Lexer

open IndexSpace Move

variable {σ τ : Type} [IndexSpace σ Char] {subject : σ}

/-- The search for the closing quote stays in the subject, whether it succeeds or fails. -/
theorem within_closeString {quote : Char} {start : Int} {standing : Standing τ}
    (h : Within subject standing.position) :
    Within subject (landing (closeString quote start subject standing)).position := by
  fun_induction closeString quote start subject standing with
  | case1 | case2 => exact h
  | case3 standing c next htake | case4 standing c next htake =>
    exact h.after (after_of_takeAt htake)
  | case5 standing c next htake hescape _ beyond htake' ih =>
    exact ih ((h.after (after_of_takeAt htake)).after (after_of_takeAt htake'))
  | case6 standing c next htake => exact h.after (after_of_takeAt htake)
  | case7 standing c next htake hescape hquote ih => exact ih (h.after (after_of_takeAt htake))

theorem staysWithin_string (quote : Char) : StaysWithin subject (string quote : Move σ τ Unit) :=
  (staysWithin_look _).bind fun _ => staysWithin_advance.bind fun _ => fun _ => within_closeString

theorem staysWithin_number : StaysWithin subject (number : Move σ τ Unit) := by
  apply (staysWithin_advanceOver _).bind
  intro _
  apply (staysWithin_look _).bind
  intro pair
  cases pair with
  | none => exact staysWithin_pure ()
  | some pair =>
    dsimp only
    split
    · exact staysWithin_advance.bind fun _ => staysWithin_advanceOver _
    · exact staysWithin_pure ()

/-- Reading a lexeme of any class stays in the subject: each is put together from moves that do. -/
theorem staysWithin_lexemeFrom (config : Config) (first : Char) :
    StaysWithin subject (lexemeFrom config first : Move σ τ TokenKind) := by
  unfold lexemeFrom
  split
  · exact (staysWithin_advanceOver _).bind fun _ => staysWithin_pure _
  apply (staysWithin_look _).bind
  intro isComment
  split
  · exact (staysWithin_advanceOver _).bind fun _ => staysWithin_pure _
  split
  · exact staysWithin_number.bind fun _ => staysWithin_pure _
  split
  · exact (staysWithin_advanceOver _).bind fun _ => staysWithin_pure _
  split
  · exact (staysWithin_string first).bind fun _ => staysWithin_pure _
  apply (staysWithin_readAnyPrefix operators).bind
  intro isOperator
  split
  · exact staysWithin_pure _
  apply (staysWithin_popWhere _).bind
  intro taken
  cases taken with
  | some c => exact staysWithin_pure _
  | none => exact (staysWithin_look _).bind fun _ => staysWithin_throw _

theorem staysWithin_lexeme (config : Config) :
    StaysWithin subject (lexeme config : Move σ τ (Option TokenKind)) := by
  apply (staysWithin_look _).bind
  intro current
  cases current with
  | none => exact staysWithin_pure none
  | some first => exact (staysWithin_lexemeFrom config first).map some

/-- Passing over what is dropped stays in the subject, however much it is. -/
theorem within_nextKept (config : Config) {standing : Standing τ}
    (h : Within subject standing.position) :
    Within subject (landing (nextKept config subject standing)).position := by
  fun_induction nextKept config subject standing with
  | case1 standing fault standing' hfails => exact (staysWithin_lexeme config).error h hfails
  | case2 standing standing' hend => exact (staysWithin_lexeme config).ok h hend
  | case3 standing kind standing' hkind hdrops ih =>
    exact ih ((staysWithin_lexeme config).ok h hkind)
  | case4 standing kind standing' hkind | case5 standing kind standing' hkind =>
    exact (staysWithin_lexeme config).ok h hkind

/-- One step of a scanner, whatever it has come to. -/
theorem Scanner.within_next (scanner : Scanner) {standing : Standing τ}
    (h : Within subject standing.position) :
    Within subject (landing (scanner.next subject standing).2).position := by
  have hkept := within_nextKept scanner.config h
  unfold Scanner.next
  split
  · exact h
  split
  · exact h
  split
  · rw [‹nextKept scanner.config subject standing = _›] at hkept
    exact hkept
  · exact hkept

/-- All steps of a scanner. -/
theorem Scanner.within_drain (scanner : Scanner) {standing : Standing τ}
    (h : Within subject standing.position) :
    Within subject (landing (scanner.drain subject standing).2).position := by
  fun_induction Scanner.drain scanner subject standing with
  | case1 scanner standing scanner' fault standing' hstep
  | case2 scanner standing scanner' standing' hstep =>
    have hnext := scanner.within_next h
    rw [hstep] at hnext
    exact hnext
  | case3 scanner standing scanner' token standing' hstep tokens ending hrest ih =>
    have hnext := scanner.within_next h
    rw [hstep] at hnext
    rw [hrest] at ih
    exact ih hnext

end Scanning.Lexer
