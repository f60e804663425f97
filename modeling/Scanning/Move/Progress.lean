import Scanning.Move.Tested

namespace Scanning

open IndexSpace

variable {σ τ ε : Type} [IndexSpace σ ε]

/-- From `start` on to `stop`, which is `start` itself or an index up to the end. -/
def LeadsOn (subject : σ) (start stop : Int) : Prop :=
  start = stop ∨ start < stop ∧ stop ≤ endIndex subject

/-- From `start` to an index behind it, up to the end. -/
def LeadsPast (subject : σ) (start stop : Int) : Prop :=
  start < stop ∧ stop ≤ endIndex subject

theorem LeadsPast.leadsOn {subject : σ} {p q : Int} (h : LeadsPast subject p q) :
    LeadsOn subject p q := .inr h

/-- What leads past an index and then on leads past it. -/
theorem LeadsPast.trans_leadsOn {subject : σ} {p q r : Int} (h : LeadsPast subject p q)
    (h' : LeadsOn subject q r) : LeadsPast subject p r := by
  unfold LeadsOn LeadsPast at *
  omega

/-- Past an index there is less room up to the end, so that moves which lead past come to an end. -/
theorem LeadsPast.room_lt {subject : σ} {p q : Int} (h : LeadsPast subject p q) :
    ((endIndex subject : Int) - q).toNat < ((endIndex subject : Int) - p).toNat := by
  unfold LeadsPast at h
  omega

/-- A step forward leads past its index. -/
theorem leadsPast_after {subject : σ} {p q : Int} (h : after subject p = .ok q) :
    LeadsPast subject p q := ⟨lt_after h, after_le h⟩

/-- From `start` to `stop` from element to element, by one step or more. -/
def StepsPast (subject : σ) (start stop : Int) : Prop :=
  Relation.TransGen (fun index next => after subject index = .ok next) start stop

/-- From `start` to `stop` from element to element, if they are not the same. -/
def StepsOn (subject : σ) (start stop : Int) : Prop :=
  start = stop ∨ StepsPast subject start stop

theorem stepsPast_after {subject : σ} {p q : Int} (h : after subject p = .ok q) :
    StepsPast subject p q := .single h

theorem StepsPast.stepsOn {subject : σ} {p q : Int} (h : StepsPast subject p q) :
    StepsOn subject p q := .inr h

/-- Steps past an index and some steps more, or none, are steps past it. -/
theorem StepsPast.trans_stepsOn {subject : σ} {p q r : Int} (h : StepsPast subject p q)
    (h' : StepsOn subject q r) : StepsPast subject p r := by
  obtain rfl | h' := h'
  · exact h
  · exact Relation.TransGen.trans h h'

theorem StepsOn.trans {subject : σ} {p q r : Int} (h : StepsOn subject p q)
    (h' : StepsOn subject q r) : StepsOn subject p r := by
  obtain rfl | h := h
  · exact h'
  · exact (h.trans_stepsOn h').stepsOn

/-- Steps from element to element lead strictly forward and none past the end, and so do all of them
together. -/
theorem StepsPast.leadsPast {subject : σ} {p q : Int} (h : StepsPast subject p q) :
    LeadsPast subject p q := by
  induction h with
  | single h => exact leadsPast_after h
  | tail _ h ih => exact ih.trans_leadsOn (leadsPast_after h).leadsOn

theorem StepsOn.leadsOn {subject : σ} {p q : Int} (h : StepsOn subject p q) :
    LeadsOn subject p q := h.imp_right StepsPast.leadsPast

/-- To take an element is to step past it. -/
theorem stepsPast_takeAt {subject : σ} {p q : Int} {element : ε}
    (h : takeAt subject p = .ok (some (element, q))) : StepsPast subject p q :=
  stepsPast_after (after_of_takeAt h)

/-- What begins with some elements goes on with the others behind the first. -/
theorem exists_after_of_prefixEnd [BEq ε] {subject : σ} {element : ε} {elements : List ε}
    {p q : Int} (h : prefixEnd subject p (element :: elements) = .ok (some q)) :
    ∃ next, after subject p = .ok next ∧ prefixEnd subject next elements = .ok (some q) := by
  simp only [prefixEnd] at h
  split at h
  · simp at h
  · cases he : elementAt subject p with
    | error => simp [he, bind, Except.bind] at h
    | ok y =>
      cases ha : after subject p with
      | error => simp_all [bind, Except.bind, pure, Except.pure]; split at h <;> simp at h
      | ok next =>
        simp only [he, ha, bind, Except.bind, pure, Except.pure] at h
        split at h
        · exact ⟨next, rfl, h⟩
        · simp at h

/-- Expected elements that are found are stepped over one by one. -/
theorem stepsOn_prefixEnd [BEq ε] {subject : σ} {elements : List ε} {p q : Int}
    (h : prefixEnd subject p elements = .ok (some q)) : StepsOn subject p q := by
  induction elements generalizing p with
  | nil => simp_all [prefixEnd, StepsOn]
  | cons element elements ih =>
    obtain ⟨next, ha, hrest⟩ := exists_after_of_prefixEnd h
    exact (stepsPast_after ha).stepsOn.trans (ih hrest)

/-- Expected elements that are found are stepped past, if any are expected. -/
theorem stepsPast_prefixEnd [BEq ε] {subject : σ} {elements : List ε} {p q : Int}
    (hne : elements ≠ []) (h : prefixEnd subject p elements = .ok (some q)) :
    StepsPast subject p q := by
  cases elements with
  | nil => exact absurd rfl hne
  | cons element elements =>
    obtain ⟨next, ha, hrest⟩ := exists_after_of_prefixEnd h
    exact (stepsPast_after ha).trans_stepsOn (stepsOn_prefixEnd hrest)

namespace Move

/-- Two moves one after the other succeed exactly if the first does and the second does from where
the first has led. -/
theorem bind_eq_ok {α β : Type} {m : Move σ τ α} {f : α → Move σ τ β} {subject : σ}
    {standing standing' : Standing τ} {answer : β} :
    (m >>= f) subject standing = .ok answer standing' ↔
      ∃ a middle, m subject standing = .ok a middle ∧
        f a subject middle = .ok answer standing' := by
  simp only [bind, ReaderT.bind, EStateM.bind]
  cases m subject standing <;> grind

theorem pure_eq_ok {α : Type} {a answer : α} {subject : σ} {standing standing' : Standing τ} :
    (pure a : Move σ τ α) subject standing = .ok answer standing' ↔
      a = answer ∧ standing = standing' := by
  simp [pure, ReaderT.pure, EStateM.pure]

/-- A move whose answer is put through a function succeeds exactly if the move does, and ends where
it does. -/
theorem map_eq_ok {α β : Type} {m : Move σ τ α} {f : α → β} {subject : σ}
    {standing standing' : Standing τ} {answer : β} :
    (f <$> m) subject standing = .ok answer standing' ↔
      ∃ a, m subject standing = .ok a standing' ∧ f a = answer := by
  simp only [Functor.map, EStateM.map]
  cases m subject standing <;> grind

theorem look_eq_ok {α : Type} {f : σ → Int → Except Fault α} {subject : σ}
    {standing standing' : Standing τ} {answer : α} :
    look f subject standing = .ok answer standing' ↔
      f subject standing.position = .ok answer ∧ standing = standing' := by
  unfold look
  cases f subject standing.position <;> simp

theorem consume_eq_ok {α : Type} {f : σ → Int → Except Fault (α × Int)} {subject : σ}
    {standing standing' : Standing τ} {answer : α} :
    consume f subject standing = .ok answer standing' ↔
      ∃ next, f subject standing.position = .ok (answer, next) ∧
        { standing with position := next } = standing' := by
  unfold consume
  cases f subject standing.position with
  | error => simp
  | ok found =>
    obtain ⟨a, next⟩ := found
    constructor
    · intro h
      cases h
      exact ⟨next, rfl, rfl⟩
    · rintro ⟨_, h, rfl⟩
      cases h
      rfl

/-- A run of accepted elements goes on. -/
theorem stepsOn_runFrom {subject : σ} {test : Int → Test τ ε}
    {standing standing' : Standing τ} (h : runFrom subject test standing = .ok () standing') :
    StepsOn subject standing.position standing'.position := by
  fun_induction runFrom subject test standing with
  | case1 => simp_all [StepsOn]
  | case2 | case3 | case5 => simp at h
  | case4 => simp at h; simp [← h, StepsOn]
  | case6 _ _ _ _ _ _ _ ha ih => exact (stepsPast_after ha).stepsOn.trans (ih h)

/-- A run over a class of elements goes from element to element. -/
theorem stepsOn_advanceOver {subject : σ} {inClass : ε → Bool}
    {standing standing' : Standing τ}
    (h : advanceOver inClass subject standing = .ok () standing') :
    StepsOn subject standing.position standing'.position := stepsOn_runFrom h

/-- A run that begins at an element of its class goes past it. -/
theorem stepsPast_advanceOver {subject : σ} {inClass : ε → Bool}
    {standing standing' : Standing τ} {element : ε}
    (hend : standing.position ≠ endIndex subject)
    (he : elementAt subject standing.position = .ok element) (hc : inClass element = true)
    (h : advanceOver inClass subject standing = .ok () standing') :
    StepsPast subject standing.position standing'.position := by
  unfold advanceOver advanceWhile runFrom at h
  simp only [hend, ↓reduceIte, he, pure, EStateM.pure, hc] at h
  split at h
  · simp at h
  · exact (stepsPast_after ‹_›).trans_stepsOn (stepsOn_runFrom h)

theorem stepsPast_advance {subject : σ} {standing standing' : Standing τ}
    (h : advance subject standing = .ok () standing') :
    StepsPast subject standing.position standing'.position := by
  obtain ⟨next, hf, rfl⟩ := consume_eq_ok.1 h
  split at hf
  · simp at hf
  · cases ha : after subject standing.position with
    | error => simp [ha, bind, Except.bind] at hf
    | ok q =>
      simp only [ha, bind, Except.bind, pure, Except.pure, Except.ok.injEq, Prod.mk.injEq,
        true_and] at hf
      exact hf ▸ stepsPast_after ha

theorem stepsPast_pop {subject : σ} {standing standing' : Standing τ} {element : ε}
    (h : pop subject standing = .ok (some element) standing') :
    StepsPast subject standing.position standing'.position := by
  obtain ⟨next, hf, rfl⟩ := consume_eq_ok.1 h
  cases ht : takeAt subject standing.position with
  | error => simp [ht, bind, Except.bind] at hf
  | ok found =>
    cases found with
    | none => simp [ht, bind, Except.bind, pure, Except.pure] at hf
    | some taken =>
      simp only [ht, bind, Except.bind, pure, Except.pure, Except.ok.injEq, Prod.mk.injEq] at hf
      exact hf.2 ▸ stepsPast_takeAt ht

/-- Elements that are read are stepped past, if any are expected. -/
theorem stepsPast_readPrefix [BEq ε] {subject : σ} {elements : List ε}
    {standing standing' : Standing τ} (hne : elements ≠ [])
    (h : readPrefix elements subject standing = .ok true standing') :
    StepsPast subject standing.position standing'.position := by
  obtain ⟨next, hf, rfl⟩ := consume_eq_ok.1 h
  cases hp : prefixEnd subject standing.position elements with
  | error => simp [hp, bind, Except.bind] at hf
  | ok found =>
    cases found with
    | none => simp [hp, bind, Except.bind, pure, Except.pure] at hf
    | some q =>
      simp only [hp, bind, Except.bind, pure, Except.pure, Except.ok.injEq, Prod.mk.injEq,
        true_and] at hf
      exact hf ▸ stepsPast_prefixEnd hne hp

theorem readPrefix_false [BEq ε] {subject : σ} {elements : List ε}
    {standing standing' : Standing τ}
    (h : readPrefix elements subject standing = .ok false standing') : standing' = standing := by
  obtain ⟨next, hf, rfl⟩ := consume_eq_ok.1 h
  cases hp : prefixEnd subject standing.position elements with
  | error => simp [hp, bind, Except.bind] at hf
  | ok found =>
    cases found with
    | some q => simp [hp, bind, Except.bind, pure, Except.pure] at hf
    | none =>
      simp only [hp, bind, Except.bind, pure, Except.pure, Except.ok.injEq, Prod.mk.injEq,
        true_and] at hf
      simp [← hf]

/-- The choice that is read is stepped past, if no choice is empty. -/
theorem stepsPast_readAnyPrefix [BEq ε] {subject : σ} {choices : List (List ε)}
    {standing standing' : Standing τ} (hne : ∀ elements ∈ choices, elements ≠ [])
    (h : readAnyPrefix choices subject standing = .ok true standing') :
    StepsPast subject standing.position standing'.position := by
  induction choices with
  | nil => simp [readAnyPrefix, pure_eq_ok] at h
  | cons elements others ih =>
    simp only [readAnyPrefix] at h
    obtain ⟨found, middle, hr, hrest⟩ := bind_eq_ok.1 h
    cases found with
    | true =>
      obtain ⟨-, rfl⟩ := pure_eq_ok.1 hrest
      exact stepsPast_readPrefix (hne _ (by simp)) hr
    | false =>
      obtain rfl := readPrefix_false hr
      exact ih (fun x hx => hne x (by simp [hx])) hrest

theorem readAnyPrefix_false [BEq ε] {subject : σ} {choices : List (List ε)}
    {standing standing' : Standing τ}
    (h : readAnyPrefix choices subject standing = .ok false standing') : standing' = standing := by
  induction choices with
  | nil =>
    obtain ⟨-, rfl⟩ := pure_eq_ok.1 h
    rfl
  | cons elements others ih =>
    simp only [readAnyPrefix] at h
    obtain ⟨found, middle, hr, hrest⟩ := bind_eq_ok.1 h
    cases found with
    | true => simp [pure_eq_ok] at hrest
    | false =>
      obtain rfl := readPrefix_false hr
      exact ih hrest

theorem stepsPast_popWhere {subject : σ} {test : Test τ ε} {standing standing' : Standing τ}
    {element : ε} (h : popWhere test subject standing = .ok (some element) standing') :
    StepsPast subject standing.position standing'.position := by
  unfold popWhere at h
  split at h
  · simp at h
  split at h
  · simp at h
  split at h <;> try simp at h
  split at h <;> simp at h
  obtain ⟨-, rfl⟩ := h
  exact stepsPast_after ‹_›

end Move

end Scanning
