import Scanning.CommandLine.Request

namespace Scanning.CommandLine

variable {α : Type} {flags : List (Flag α)} {property : Effect α → Prop} {word : Word α}
  {words : List (Word α)} {effects : List (Effect α)} {argument : String}
  {arguments rest : List String} {gathered gathered' : Gathered α} {change : α → α}

theorem Exit.bind_eq_ok {β γ : Type} {attempt : Except Exit β} {f : β → Except Exit γ} {c : γ} :
    attempt >>= f = .ok c ↔ ∃ b, attempt = .ok b ∧ f b = .ok c := by
  cases attempt <;> simp [bind, Except.bind]

theorem readWords_cons {word : Word α} (hne : argument ≠ "--")
    (hword : readWord flags argument = .ok word) (hrest : readWords flags rest = .ok words) :
    readWords flags (argument :: rest) = .ok (word :: words) := by
  rw [readWords, if_neg (by simpa using hne), hword, hrest]
  rfl

namespace Gathered

/-- The same with changed settings. -/
def changed (change : α → α) (gathered : Gathered α) : Gathered α :=
  { gathered with settings := change gathered.settings }

end Gathered

/-- The arguments in front of an operand leave this gathered, whatever stands behind the operand. -/
def ReadsFront (flags : List (Flag α)) (gathered gathered' : Gathered α) (front : List String)
    (name : String) : Prop :=
  ∀ behind words, readWords flags behind = .ok words →
    ∃ all, readWords flags (front ++ name :: behind) = .ok all ∧
      gathered.acceptLeading ((front ++ name :: behind).zip all) = .ok (gathered', name :: behind)

theorem ReadsFront.cons {next : Gathered α} {front : List String} {name : String}
    (h : ReadsFront flags next gathered' front name) (hne : argument ≠ "--")
    (hword : readWord flags argument = .ok word)
    (hnext : ∀ others, gathered.acceptLeading ((argument, word) :: others) =
      next.acceptLeading others) :
    ReadsFront flags gathered gathered' (argument :: front) name := by
  intro behind words hwords
  obtain ⟨all, hall, haccepted⟩ := h behind words hwords
  refine ⟨word :: all, readWords_cons hne hword hall, ?_⟩
  rw [List.cons_append, List.zip_cons_cons, hnext]
  exact haccepted

end Scanning.CommandLine
