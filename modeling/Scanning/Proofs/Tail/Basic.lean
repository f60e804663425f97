import Scanning.Proofs.Agreement.Basic
import Scanning.Proofs.Lexer.Ending
import Scanning.Proofs.Move.Stepwise

namespace Scanning

open IndexSpace

/-- Failures that a handler does not tell apart. -/
def Fault.Alike (fault fault' : Fault) : Prop := fault.kind = fault'.kind

theorem Fault.Alike.refl (fault : Fault) : fault.Alike fault := rfl

/-- Failures of one kind that are no complaints of the lexer. -/
def Fault.Similar (fault fault' : Fault) : Prop := fault.Alike fault' ∧ ¬ fault.IsLexical

variable {α β γ δ : Type}

/-- Attempts with related outcomes, or failures of one kind. -/
inductive Both (same : α → β → Prop) : Except Fault α → Except Fault β → Prop where
  | ok {a : α} {b : β} (h : same a b) : Both same (.ok a) (.ok b)
  | error {fault fault' : Fault} (h : fault.Similar fault') : Both same (.error fault) (.error fault')

namespace Both

variable {same : α → β → Prop} {same' : γ → δ → Prop} {attempt : Except Fault α}
  {attempt' : Except Fault β}

theorem bind {f : α → Except Fault γ} {f' : β → Except Fault δ} (h : Both same attempt attempt')
    (hf : ∀ {a b}, same a b → Both same' (f a) (f' b)) :
    Both same' (attempt >>= f) (attempt' >>= f') := by
  cases h with
  | ok h => exact hf h
  | error h => exact .error h

theorem map {f : α → γ} {f' : β → δ} (h : Both same attempt attempt')
    (hf : ∀ {a b}, same a b → same' (f a) (f' b)) : Both same' (f <$> attempt) (f' <$> attempt') := by
  cases h with
  | ok h => exact .ok (hf h)
  | error h => exact .error h

/-- An attempt that fails as subjects do is like itself. -/
theorem refl {attempt : Except Fault α} (h : ∀ {fault}, attempt = .error fault → ¬ fault.IsLexical) :
    Both Eq attempt attempt := by
  cases attempt with
  | ok a => exact .ok rfl
  | error fault => exact .error ⟨rfl, h rfl⟩

end Both

/-- An index as it is counted from `start` on. -/
def Behind (start : Nat) (index index' : Int) : Prop := 0 ≤ index' ∧ index = start + index'

/-- Over the tail an index is less by where the tail begins. -/
theorem Behind.eq_sub {start : Nat} {index index' : Int} (h : Behind start index index') :
    index' = index - start := by
  obtain ⟨-, rfl⟩ := h
  omega

/-- An index that is not in front of the tail has its counterpart. -/
theorem behind_sub {start : Nat} {index : Int} (h : start ≤ index) :
    Behind start index (index - start) := ⟨by omega, by omega⟩

theorem Behind.alike {start : Nat} {index index' lowered : Int} (h : Behind start index lowered)
    (h' : Behind start index' lowered) : Behind 0 index index' := by
  obtain ⟨hlowered, rfl⟩ := h
  obtain ⟨-, rfl⟩ := h'
  exact ⟨by omega, by omega⟩

variable {σ τ ε : Type} [IndexSpace σ ε]

/-- What there is of a subject behind an index, as a subject of its own. -/
structure Tail (subject tail : σ) (start : Nat) : Prop where
  endIndex_eq : endIndex subject = start + endIndex tail
  after {index index' : Int} (h : Behind start index index') :
    Both (Behind start) (after subject index) (after tail index')
  elementAt {index index' : Int} (h : Behind start index index') :
    Both Eq (elementAt subject index) (elementAt tail index')
  slice {low low' high high' : Int} (hlow : Behind start low low') (hhigh : Behind start high high') :
    Both Eq (slice subject low high) (slice tail low' high')
  offset {index index' distance : Int} (h : Behind start index index')
    (hend : index ≤ endIndex subject)
    (hlands : ∀ {target}, offset subject index distance = .ok target → start ≤ target) :
    Both (Behind start) (offset subject index distance) (offset tail index' distance)
  offsetLimited {index index' : Int} (h : Behind start index index') (count : Nat) :
    Both (Option.Rel (Behind start)) (offsetLimited subject index count (endIndex subject))
      (offsetLimited tail index' count (endIndex tail))

namespace Tail

variable {subject tail : σ} {start : Nat}

/-- An index is the end of the subject exactly if its counterpart is the end of the tail. -/
theorem eq_end_iff (h : Tail subject tail start) {index index' : Int}
    (hindex : Behind start index index') :
    index = endIndex subject ↔ index' = endIndex tail := by
  have hend := h.endIndex_eq
  obtain ⟨-, rfl⟩ := hindex
  omega

theorem behind_end (h : Tail subject tail start) :
    Behind start (endIndex subject) (endIndex tail) :=
  ⟨Int.natCast_nonneg _, by rw [h.endIndex_eq]; rfl⟩

/-- What is done at the end is done at the end of the tail. -/
theorem both_ite (h : Tail subject tail start) {index index' : Int}
    (hindex : Behind start index index') {same : α → β → Prop} {ending other : Except Fault α} {ending' other' : Except Fault β}
    (hending : Both same ending ending') (hother : Both same other other') :
    Both same (if index = endIndex subject then ending else other)
      (if index' = endIndex tail then ending' else other') := by
  by_cases hend : index = endIndex subject
  · rwa [if_pos hend, if_pos ((h.eq_end_iff hindex).1 hend)]
  · rwa [if_neg hend, if_neg fun hend' => hend ((h.eq_end_iff hindex).2 hend')]

/-- Both taken elements, and the places behind them. -/
def Taken (start : Nat) (taken taken' : ε × Int) : Prop :=
  taken.1 = taken'.1 ∧ Behind start taken.2 taken'.2

/-- The same element is taken at an index and its counterpart, with corresponding places behind
it. -/
theorem takeAt (h : Tail subject tail start) {index index' : Int}
    (hindex : Behind start index index') :
    Both (Option.Rel (Taken start)) (takeAt subject index) (takeAt tail index') := by
  refine h.both_ite hindex (.ok .none) ((h.elementAt hindex).bind ?_)
  rintro element _ rfl
  exact (h.after hindex).bind fun hnext => .ok (.some ⟨rfl, hnext⟩)

/-- The same prefixes stand at an index and its counterpart, and end at corresponding places. -/
theorem prefixEnd [BEq ε] (h : Tail subject tail start) {index index' : Int}
    (hindex : Behind start index index') (expected : List ε) :
    Both (Option.Rel (Behind start)) (prefixEnd subject index expected)
      (prefixEnd tail index' expected) := by
  induction expected generalizing index index' with
  | nil => exact .ok (.some hindex)
  | cons first others ih =>
    refine h.both_ite hindex (.ok .none) ((h.elementAt hindex).bind ?_)
    rintro element _ rfl
    split
    · exact (h.after hindex).bind ih
    · exact .ok .none

end Tail

/-- What is made of the answer does not matter for where a move lands. -/
theorem Move.landing_map {move : Move σ τ α} {subject : σ} (f : α → β) (standing : Standing τ) :
    landing ((f <$> move) subject standing) = landing (move subject standing) := by
  simp only [Functor.map, EStateM.map]
  cases move subject standing with
  | ok | error => rfl

/-- Outcomes of moves over a subject and its tail: related answers, or failures of which a relation is
asked for; and the same place and memory. -/
inductive Parallel (faults : Fault → Fault → Prop) (same : α → β → Prop) (start : Nat) :
    EStateM.Result Fault (Standing τ) α → EStateM.Result Fault (Standing τ) β → Prop where
  | ok {a : α} {b : β} (h : same a b) {position position' : Int}
      (hposition : Behind start position position') (memory : τ) :
      Parallel faults same start (.ok a ⟨position, memory⟩) (.ok b ⟨position', memory⟩)
  | error {fault fault' : Fault} (h : faults fault fault') {position position' : Int}
      (hposition : Behind start position position') (memory : τ) :
      Parallel faults same start (.error fault ⟨position, memory⟩) (.error fault' ⟨position', memory⟩)

/-- What is made of corresponding answers corresponds, and the moves still lead to corresponding
places. -/
theorem Parallel.map {faults : Fault → Fault → Prop} {same : α → β → Prop} {same' : γ → δ → Prop}
    {subject tail : σ} {start : Nat} {move : Move σ τ α} {move' : Move σ τ β} {f : α → γ} {f' : β → δ}
    {standing standing' : Standing τ}
    (h : Parallel faults same start (move subject standing) (move' tail standing'))
    (hf : ∀ {a b}, same a b → same' (f a) (f' b)) :
    Parallel faults same' start ((f <$> move) subject standing) ((f' <$> move') tail standing') := by
  simp only [Functor.map, EStateM.map]
  generalize move subject standing = outcome, move' tail standing' = outcome' at h
  cases h with
  | ok hsame hposition memory => exact .ok (hf hsame) hposition memory
  | error hfaults hposition memory => exact .error hfaults hposition memory

/-- Moves that go in parallel from wherever they begin in the tail. -/
def InParallel (faults : Fault → Fault → Prop) (same : α → β → Prop) (subject tail : σ) (start : Nat)
    (move : Move σ τ α) (move' : Move σ τ β) : Prop :=
  ∀ ⦃position position' : Int⦄ (memory : τ), Behind start position position' →
    Parallel faults same start (move subject ⟨position, memory⟩) (move' tail ⟨position', memory⟩)

namespace InParallel

variable {faults : Fault → Fault → Prop} {same : α → β → Prop} {same' : γ → δ → Prop}
  {subject tail : σ} {start : Nat} {move : Move σ τ α} {move' : Move σ τ β}

theorem pure {a : α} {b : β} (h : same a b) :
    InParallel faults same subject tail start (Pure.pure a : Move σ τ α) (Pure.pure b : Move σ τ β) :=
  fun _ _ memory hposition => .ok h hposition memory

/-- Moves in parallel, followed by ones that are in parallel for answers that correspond, are in
parallel. -/
theorem bind {f : α → Move σ τ γ} {f' : β → Move σ τ δ}
    (h : InParallel faults same subject tail start move move')
    (hf : ∀ {a b}, same a b → InParallel faults same' subject tail start (f a) (f' b)) :
    InParallel faults same' subject tail start (move >>= f) (move' >>= f') := by
  intro position position' memory hposition
  have houtcome := h memory hposition
  simp only [Bind.bind, ReaderT.bind, EStateM.bind]
  generalize move subject ⟨position, memory⟩ = outcome,
    move' tail ⟨position', memory⟩ = outcome' at houtcome
  cases houtcome with
  | ok hsame hnext memory => exact hf hsame memory hnext
  | error hfaults hnext memory => exact .error hfaults hnext memory

theorem map {f : α → γ} {f' : β → δ} (h : InParallel faults same subject tail start move move')
    (hf : ∀ {a b}, same a b → same' (f a) (f' b)) :
    InParallel faults same' subject tail start (f <$> move) (f' <$> move') :=
  fun _ _ memory hposition => (h memory hposition).map hf

/-- Where the cursors stand. -/
theorem position :
    InParallel faults (Behind start) subject tail start (Move.position : Move σ τ Int)
      Move.position :=
  fun _ _ memory hposition => .ok hposition hposition memory

section Subjects

variable (hfaults : ∀ {fault fault'}, Fault.Similar fault fault' → faults fault fault')

include hfaults

/-- Looks that end alike at corresponding indices are in parallel. -/
theorem look {f : σ → Int → Except Fault α} {f' : σ → Int → Except Fault β}
    (h : ∀ {index index'}, Behind start index index' → Both same (f subject index) (f' tail index')) :
    InParallel faults same subject tail start (Move.look f : Move σ τ α) (Move.look f') := by
  intro position position' memory hposition
  have hboth := h hposition
  unfold Move.look
  generalize f subject position = attempt, f' tail position' = attempt' at hboth
  cases hboth with
  | ok hsame => exact .ok hsame hposition memory
  | error hsimilar => exact .error (hfaults hsimilar) hposition memory

/-- Moves to corresponding places, with corresponding answers, are in parallel. -/
theorem consume {f : σ → Int → Except Fault (α × Int)} {f' : σ → Int → Except Fault (β × Int)}
    (h : ∀ {index index'}, Behind start index index' →
      Both (fun found found' => same found.1 found'.1 ∧ Behind start found.2 found'.2)
        (f subject index) (f' tail index')) :
    InParallel faults same subject tail start (Move.consume f : Move σ τ α) (Move.consume f') := by
  intro position position' memory hposition
  have hboth := h hposition
  unfold Move.consume
  generalize f subject position = attempt, f' tail position' = attempt' at hboth
  cases hboth with
  | ok hfound => exact .ok hfound.1 hfound.2 memory
  | error hsimilar => exact .error (hfaults hsimilar) hposition memory

end Subjects

end InParallel

namespace Tail

open InParallel

variable {faults : Fault → Fault → Prop} {subject tail : σ} {start : Nat}
  (h : Tail subject tail start)
  (hfaults : ∀ {fault fault'}, Fault.Similar fault fault' → faults fault fault')

include h

theorem isAtEnd (hfaults : ∀ {fault fault'}, Fault.Similar fault fault' → faults fault fault') :
    InParallel faults Eq subject tail start (Move.isAtEnd : Move σ τ Bool) Move.isAtEnd :=
  look hfaults fun hindex => .ok (decide_eq_decide.2 (h.eq_end_iff hindex))

include hfaults

/-- The same elements are left. -/
theorem remainder :
    InParallel faults Eq subject tail start (Move.remainder : Move σ τ (List ε)) Move.remainder :=
  look hfaults fun hindex => h.slice hindex h.behind_end

/-- The same elements have been consumed since an index that is not in front of the tail. -/
theorem consumedSince {first first' : Int} (hfirst : Behind start first first') :
    InParallel faults Eq subject tail start (Move.consumedSince first : Move σ τ (List ε))
      (Move.consumedSince first') :=
  look hfaults fun hindex => h.slice hfirst hindex

theorem advance :
    InParallel faults Eq subject tail start (Move.advance : Move σ τ Unit) Move.advance :=
  consume hfaults fun hindex =>
    h.both_ite hindex (.error ⟨rfl, id⟩) ((h.after hindex).bind fun hnext => .ok ⟨rfl, hnext⟩)

theorem peek :
    InParallel faults Eq subject tail start (Move.peek : Move σ τ (Option ε)) Move.peek :=
  look hfaults fun hindex =>
    h.both_ite hindex (.ok rfl) ((h.elementAt hindex).map fun hsame => congrArg some hsame)

theorem peek2 :
    InParallel faults Eq subject tail start (Move.peek2 : Move σ τ (Option (ε × ε))) Move.peek2 := by
  apply look hfaults
  intro index index' hindex
  refine h.both_ite hindex (.ok rfl) ((h.after hindex).bind ?_)
  intro second second' hsecond
  refine h.both_ite hsecond (.ok rfl) ((h.elementAt hindex).bind ?_)
  rintro a _ rfl
  refine (h.elementAt hsecond).bind ?_
  rintro b _ rfl
  exact .ok rfl

theorem peek3 :
    InParallel faults Eq subject tail start (Move.peek3 : Move σ τ (Option (ε × ε × ε)))
      Move.peek3 := by
  apply look hfaults
  intro index index' hindex
  refine h.both_ite hindex (.ok rfl) ((h.after hindex).bind ?_)
  intro second second' hsecond
  refine h.both_ite hsecond (.ok rfl) ((h.after hsecond).bind ?_)
  intro third third' hthird
  refine h.both_ite hthird (.ok rfl) ((h.elementAt hindex).bind ?_)
  rintro a _ rfl
  refine (h.elementAt hsecond).bind ?_
  rintro b _ rfl
  refine (h.elementAt hthird).bind ?_
  rintro c _ rfl
  exact .ok rfl

theorem hasPrefix [BEq ε] (element : ε) :
    InParallel faults Eq subject tail start (Move.hasPrefix element : Move σ τ Bool)
      (Move.hasPrefix element) :=
  look hfaults fun hindex =>
    h.both_ite hindex (.ok rfl) ((h.elementAt hindex).map fun hsame => congrArg (· == element) hsame)

theorem startsWith [BEq ε] (elements : List ε) :
    InParallel faults Eq subject tail start (Move.startsWith elements : Move σ τ Bool)
      (Move.startsWith elements) := by
  apply look hfaults
  intro index index' hindex
  refine (h.prefixEnd hindex elements).map ?_
  rintro _ _ (_ | _)
  · rfl
  · rfl

theorem pop : InParallel faults Eq subject tail start (Move.pop : Move σ τ (Option ε)) Move.pop := by
  apply consume hfaults
  intro index index' hindex
  refine (h.takeAt hindex).bind ?_
  rintro _ _ (⟨hsame, hnext⟩ | _)
  · exact .ok ⟨congrArg some hsame, hnext⟩
  · exact .ok ⟨rfl, hindex⟩

theorem popElement [BEq ε] (element : ε) :
    InParallel faults Eq subject tail start (Move.popElement element : Move σ τ Bool)
      (Move.popElement element) := by
  apply consume hfaults
  intro index index' hindex
  refine h.both_ite hindex (.ok ⟨rfl, hindex⟩) ((h.elementAt hindex).bind ?_)
  rintro current _ rfl
  split
  · exact (h.after hindex).bind fun hnext => .ok ⟨rfl, hnext⟩
  · exact .ok ⟨rfl, hindex⟩

theorem readPrefix [BEq ε] (elements : List ε) :
    InParallel faults Eq subject tail start (Move.readPrefix elements : Move σ τ Bool)
      (Move.readPrefix elements) := by
  apply consume hfaults
  intro index index' hindex
  refine (h.prefixEnd hindex elements).bind ?_
  rintro _ _ (hnext | _)
  · exact .ok ⟨rfl, hnext⟩
  · exact .ok ⟨rfl, hindex⟩

theorem readAnyPrefix [BEq ε] (choices : List (List ε)) :
    InParallel faults Eq subject tail start (Move.readAnyPrefix choices : Move σ τ Bool)
      (Move.readAnyPrefix choices) := by
  induction choices with
  | nil => exact .pure rfl
  | cons elements others ih =>
    refine (h.readPrefix hfaults elements).bind ?_
    rintro found _ rfl
    cases found with
    | true => exact .pure rfl
    | false => exact ih

theorem read (count : Int)
    (hnegative : ∀ count, faults (.negativeCount count) (.negativeCount count)) :
    InParallel faults Eq subject tail start (Move.read count : Move σ τ (Option (List ε)))
      (Move.read count) := by
  intro position position' memory hposition
  unfold Move.read
  by_cases hcount : count < 0
  · rw [if_pos hcount, if_pos hcount]
    exact .error (hnegative count) hposition memory
  obtain ⟨count, rfl⟩ := Int.eq_ofNat_of_zero_le (Int.not_lt.1 hcount)
  rw [if_neg hcount, if_neg hcount]
  have hnext := h.offsetLimited hposition count
  dsimp only
  generalize IndexSpace.offsetLimited subject position count (endIndex subject) = attempt,
    IndexSpace.offsetLimited tail position' count (endIndex tail) = attempt' at hnext
  cases hnext with
  | error hsimilar => exact .error (hfaults hsimilar) hposition memory
  | ok hnext =>
    cases hnext with
    | none => exact .ok rfl hposition memory
    | @some next next' hnext =>
      have hslice := h.slice hposition hnext
      dsimp only
      generalize IndexSpace.slice subject position next = piece,
        IndexSpace.slice tail position' next' = piece' at hslice
      cases hslice with
      | error hsimilar => exact .error (hfaults hsimilar) hnext memory
      | ok hsame => exact .ok (congrArg some hsame) hnext memory

/-- Where a move by a number of elements lands matters, since the start of the tail is no end of the
subject. -/
theorem advanceBy {distance position position' : Int} {memory : τ}
    (hposition : Behind start position position') (hend : position ≤ endIndex subject)
    (hlands : start ≤ (Move.landing (Move.advanceBy distance subject ⟨position, memory⟩)).position) :
    Parallel faults Eq start (Move.advanceBy distance subject ⟨position, memory⟩)
      (Move.advanceBy distance tail ⟨position', memory⟩) := by
  have hoffset : Both (Behind start) (IndexSpace.offset subject position distance)
      (IndexSpace.offset tail position' distance) := by
    apply h.offset hposition hend
    intro target htarget
    simp only [Move.advanceBy, Move.consume, htarget] at hlands
    exact hlands
  simp only [Move.advanceBy, Move.consume]
  generalize IndexSpace.offset subject position distance = attempt,
    IndexSpace.offset tail position' distance = attempt' at hoffset
  cases hoffset with
  | error hsimilar => exact .error (hfaults hsimilar) hposition memory
  | ok hnext => exact .ok rfl hnext memory

section Tests

variable {test : Test τ ε}
  (htest : ∀ element memory fault memory', test element memory = .error fault memory' →
    faults fault fault)

include htest

theorem popWhere :
    InParallel faults Eq subject tail start (Move.popWhere test) (Move.popWhere test) := by
  intro position position' memory hposition
  unfold Move.popWhere
  dsimp only
  by_cases hend : position = endIndex subject
  · rw [if_pos hend, if_pos ((h.eq_end_iff hposition).1 hend)]
    exact .ok rfl hposition memory
  rw [if_neg hend, if_neg fun hend' => hend ((h.eq_end_iff hposition).2 hend')]
  have helement := h.elementAt hposition
  generalize IndexSpace.elementAt subject position = attempt,
    IndexSpace.elementAt tail position' = attempt' at helement
  cases helement with
  | error hsimilar => exact .error (hfaults hsimilar) hposition memory
  | @ok element _ hsame =>
    obtain rfl := hsame
    dsimp only
    cases hverdict : test element memory with
    | error fault memory' => exact .error (htest _ _ _ _ hverdict) hposition memory'
    | ok verdict memory' =>
      cases verdict with
      | false => exact .ok rfl hposition memory'
      | true =>
        have hafter := h.after hposition
        dsimp only
        generalize IndexSpace.after subject position = step,
          IndexSpace.after tail position' = step' at hafter
        cases hafter with
        | error hsimilar => exact .error (hfaults hsimilar) hposition memory'
        | ok hnext => exact .ok rfl hnext memory'

/-- Under a test the same elements are gone over, because the test is asked about elements and not
about indices. -/
theorem advanceWhile :
    InParallel faults Eq subject tail start (Move.advanceWhile test) (Move.advanceWhile test) := by
  intro position position' memory hposition
  obtain ⟨room, hroom⟩ : ∃ room, ((endIndex subject : Int) - position).toNat = room := ⟨_, rfl⟩
  induction room using Nat.strongRecOn generalizing position position' memory with
  | ind room ih =>
    have hpop := h.popWhere hfaults htest memory hposition
    rw [Move.advanceWhile_eq, Move.advanceWhile_eq test tail]
    generalize hfirst : Move.popWhere test subject ⟨position, memory⟩ = outcome,
      Move.popWhere test tail ⟨position', memory⟩ = outcome' at hpop
    cases hpop with
    | error hfault hstop memory' => exact .error hfault hstop memory'
    | @ok found _ hsame next next' hnext memory' =>
      obtain rfl := hsame
      cases found with
      | none => exact .ok rfl hnext memory'
      | some element =>
        have hroom' := (Move.stepsPast_popWhere hfirst).leadsPast.room_lt
        exact ih _ (hroom ▸ hroom') memory' hnext rfl

/-- Under a test the same elements are read. -/
theorem readWhile :
    InParallel faults Eq subject tail start (Move.readWhile test) (Move.readWhile test) := by
  refine InParallel.position.bind ?_
  intro first first' hfirst
  refine (h.advanceWhile hfaults htest).bind ?_
  intro _ _ _
  exact h.consumedSince hfaults hfirst

end Tests

theorem advanceOver (inClass : ε → Bool) :
    InParallel faults Eq subject tail start (Move.advanceOver inClass : Move σ τ Unit)
      (Move.advanceOver inClass) :=
  h.advanceWhile hfaults fun _ _ _ _ htest => by cases htest

end Tail

namespace Operation

/-- Operations that tell no test where the cursor is, and look back to `start` at most. -/
def CountsFrom (start : Nat) : Operation σ τ ε → Prop
  | consumedSince first => start ≤ first
  | advanceInspecting _ => False
  | _ => True

/-- The operation with indices that are counted from `start` on. -/
def lowered (start : Nat) : Operation σ τ ε → Operation σ τ ε
  | consumedSince first => consumedSince (first - start)
  | operation => operation

omit [IndexSpace σ ε] in
theorem countsFrom_lowered {start : Nat} (operation : Operation σ τ ε)
    (h : operation.CountsFrom start) : (operation.lowered start).CountsFrom 0 := by
  cases operation with
  | consumedSince first => exact Int.sub_nonneg_of_le h
  | advanceInspecting => exact h
  | _ => trivial

/-- An operation that does not land before the tail answers from the tail alone. -/
theorem parallel [BEq ε] {subject tail : σ} {start : Nat} (h : Tail subject tail start)
    (operation : Operation σ τ ε) (hcounts : operation.CountsFrom start) {position position' : Int}
    {memory : τ} (hposition : Behind start position position') (hend : position ≤ endIndex subject)
    (hlands : start ≤ (Move.landing (operation.move subject ⟨position, memory⟩)).position) :
    Parallel Fault.Alike Eq start
      (operation.move subject ⟨position, memory⟩)
      ((operation.lowered start).move tail ⟨position', memory⟩) := by
  have hfaults {fault fault' : Fault} (hsimilar : fault.Similar fault') : fault.Alike fault' :=
    hsimilar.1
  have htests (test : Test τ ε) (element : ε) (memory : τ) (fault : Fault) (memory' : τ)
      (_ : test element memory = .error fault memory') : fault.Alike fault := .refl fault
  cases operation with
  | isAtEnd => exact (h.isAtEnd hfaults).map (congrArg Answer.verdict ·) memory hposition
  | remainder =>
    exact (h.remainder hfaults).map (congrArg (Answer.piece ∘ some) ·) memory hposition
  | consumedSince first =>
    exact (h.consumedSince hfaults (behind_sub hcounts)).map (congrArg (Answer.piece ∘ some) ·)
      memory hposition
  | advance => exact (h.advance hfaults).map (fun _ => rfl) memory hposition
  | advanceBy distance =>
    have hlanding : Move.landing ((Operation.advanceBy distance).move subject ⟨position, memory⟩) =
        Move.landing (Move.advanceBy distance subject ⟨position, memory⟩) := Move.landing_map _ _
    rw [hlanding] at hlands
    exact (h.advanceBy hfaults hposition hend hlands).map fun _ => rfl
  | advanceWhile test =>
    exact (h.advanceWhile hfaults (htests test)).map (fun _ => rfl) memory hposition
  | advanceInspecting test => cases hcounts
  | peek => exact (h.peek hfaults).map (congrArg Answer.element ·) memory hposition
  | peek2 => exact (h.peek2 hfaults).map (congrArg Answer.pair ·) memory hposition
  | peek3 => exact (h.peek3 hfaults).map (congrArg Answer.triple ·) memory hposition
  | hasPrefix element =>
    exact (h.hasPrefix hfaults element).map (congrArg Answer.verdict ·) memory hposition
  | startsWith elements =>
    exact (h.startsWith hfaults elements).map (congrArg Answer.verdict ·) memory hposition
  | pop => exact (h.pop hfaults).map (congrArg Answer.element ·) memory hposition
  | popElement element =>
    exact (h.popElement hfaults element).map (congrArg Answer.verdict ·) memory hposition
  | popWhere test =>
    exact (h.popWhere hfaults (htests test)).map (congrArg Answer.element ·) memory hposition
  | read count =>
    exact (h.read hfaults count fun _ => rfl).map (congrArg Answer.piece ·) memory hposition
  | readPrefix elements =>
    exact (h.readPrefix hfaults elements).map (congrArg Answer.verdict ·) memory hposition
  | readWhile test =>
    exact (h.readWhile hfaults (htests test)).map (congrArg (Answer.piece ∘ some) ·) memory hposition

end Operation

end Scanning
