import Mathlib.Data.List.Forall2
import Scanning.Move.Operation
import Scanning.Proofs.Agreement.Basic
import Scanning.Proofs.Layout.Looking
import Scanning.Proofs.Layout.Subject

namespace Scanning

open IndexSpace Utf8

variable {σ ρ τ ε α : Type}

/-- What can be asked of a cursor without knowing how its subject counts: positions are named by
their visit, and tests see elements only. -/
inductive Question (τ ε : Type) where
  | isAtEnd
  | remainder
  | consumedSince (visit : Nat)
  | advance
  | advanceBy (distance : Int)
  | advanceWhile (test : Test τ ε)
  | peek
  | peek2
  | peek3
  | hasPrefix (element : ε)
  | startsWith (elements : List ε)
  | pop
  | popElement (element : ε)
  | popWhere (test : Test τ ε)
  | read (count : Int)
  | readPrefix (elements : List ε)
  | readWhile (test : Test τ ε)

/-- The operation that is asked for. A visit that has not been made yet stands for the position. -/
def Question.operation (visited : List Int) (position : Int) : Question τ ε → Operation σ τ ε
  | isAtEnd => .isAtEnd
  | remainder => .remainder
  | consumedSince visit => .consumedSince (visited.getD visit position)
  | advance => .advance
  | advanceBy distance => .advanceBy distance
  | advanceWhile test => .advanceWhile test
  | peek => .peek
  | peek2 => .peek2
  | peek3 => .peek3
  | hasPrefix element => .hasPrefix element
  | startsWith elements => .startsWith elements
  | pop => .pop
  | popElement element => .popElement element
  | popWhere test => .popWhere test
  | read count => .read count
  | readPrefix elements => .readPrefix elements
  | readWhile test => .readWhile test

/-- A request to the cursor of that number. -/
inductive Request (τ ε : Type) where
  | ask (number : Nat) (question : Question τ ε)
  | copy (number : Nat)

/-- Where several cursors over one subject stand, which positions they have visited so far, and what
the caller's tests remember. -/
structure Pool (τ : Type) where
  positions : List Int
  visited : List Int
  memory : τ

namespace Pool

/-- A single cursor at an index of the subject. -/
def start [IndexSpace σ ε] (subject : σ) (position : Int) (memory : τ) : Except Fault (Pool τ) := do
  let cursor ← Cursor.at? subject position
  return ⟨[cursor.position], [cursor.position], memory⟩

/-- The cursor of that number stands elsewhere. -/
def moved (pool : Pool τ) (number : Nat) (standing : Standing τ) : Pool τ where
  positions := pool.positions.set number standing.position
  visited := pool.visited ++ [standing.position]
  memory := standing.memory

/-- The reply to what one cursor has done, and the pool with that cursor moved. A failure too moves
it as far as it came. -/
def settle (pool : Pool τ) (number : Nat) :
    EStateM.Result Fault (Standing τ) (Answer ε) → Except Fault (Answer ε) × Pool τ
  | .ok answer standing => (.ok answer, pool.moved number standing)
  | .error fault standing => (.error fault, pool.moved number standing)

variable [IndexSpace σ ε] [BEq ε]

/-- Does what is requested. Nothing happens to a number that no cursor has. -/
def step (subject : σ) (pool : Pool τ) : Request τ ε → Except Fault (Answer ε) × Pool τ
  | .ask number question =>
    match pool.positions[number]? with
    | none => (.ok .nothing, pool)
    | some position =>
      pool.settle number <| (Cursor.mk subject position).perform pool.memory
        (question.operation pool.visited position).move
  | .copy number =>
    match pool.positions[number]? with
    | none => (.ok .nothing, pool)
    | some position =>
      match (Cursor.mk subject position).copy with
      | .ok cursor =>
        (.ok .nothing, { pool with positions := pool.positions ++ [cursor.position] })
      | .error fault => (.error fault, pool)

/-- What is answered to each request of a run, and the pool after it. A request that fails does not
end the run. -/
def run (subject : σ) (pool : Pool τ) :
    List (Request τ ε) → List (Except Fault (Answer ε) × Pool τ)
  | [] => []
  | request :: others =>
    let outcome := pool.step subject request
    outcome :: run subject outcome.2 others

end Pool

/-- The same answer, or failures of one kind. -/
inductive SameReply : Except Fault α → Except Fault α → Prop where
  | ok (answer : α) : SameReply (.ok answer) (.ok answer)
  | error {fault fault' : Fault} (hkind : fault.kind = fault'.kind) :
      SameReply (.error fault) (.error fault')

/-- The indices at which the elements of these numbers begin. -/
def indicesOf (place : Nat → Nat) (numbers : List Nat) : List Int :=
  numbers.map fun k => (place k : Int)

/-- The cursors of two pools stand at the elements of the same numbers, and so they did before. -/
inductive Pool.Matches (size : Nat) (place place' : Nat → Nat) : Pool τ → Pool τ → Prop where
  | intro {stands visits : List Nat} (hstands : ∀ k ∈ stands, k ≤ size)
      (hvisits : ∀ k ∈ visits, k ≤ size) (memory : τ) :
      Matches size place place' ⟨indicesOf place stands, indicesOf place visits, memory⟩
        ⟨indicesOf place' stands, indicesOf place' visits, memory⟩

/-- After a step over each of two subjects: the same reply, and pools that match. -/
def SameStep (size : Nat) (place place' : Nat → Nat)
    (outcome outcome' : Except Fault (Answer ε) × Pool τ) : Prop :=
  SameReply outcome.1 outcome'.1 ∧ Pool.Matches size place place' outcome.2 outcome'.2

/-- The index in a list of places belongs to the number at the same point of the list. -/
theorem indicesOf_getElem? (place : Nat → Nat) (numbers : List Nat) (number : Nat) :
    (indicesOf place numbers)[number]? = numbers[number]?.map fun k => (place k : Int) :=
  List.getElem?_map

/-- A named visit is a place, and a visit still to come is the place of the cursor. -/
theorem indicesOf_getD (place : Nat → Nat) (visits : List Nat) (visit k : Nat) :
    (indicesOf place visits).getD visit (place k) = place (visits.getD visit k) := by
  rw [List.getD_eq_getElem?_getD, List.getD_eq_getElem?_getD, indicesOf_getElem?]
  cases visits[visit]? <;> rfl

/-- A named visit is to an element there is, and so is one still to come. -/
theorem getD_le {size k : Nat} {visits : List Nat} (hvisits : ∀ k ∈ visits, k ≤ size)
    (hk : k ≤ size) (visit : Nat) : visits.getD visit k ≤ size := by
  rw [List.getD_eq_getElem?_getD]
  cases hvisit : visits[visit]? with
  | none => exact hk
  | some number => exact hvisits number (List.mem_of_getElem? hvisit)

theorem indicesOf_concat (place : Nat → Nat) (numbers : List Nat) (k : Nat) :
    indicesOf place numbers ++ [(place k : Int)] = indicesOf place (numbers ++ [k]) := by
  rw [indicesOf, indicesOf, List.map_append]
  rfl

theorem le_of_mem_concat {size k : Nat} {numbers : List Nat} (hnumbers : ∀ j ∈ numbers, j ≤ size)
    (hk : k ≤ size) : ∀ j ∈ numbers ++ [k], j ≤ size := by
  intro j hj
  obtain hj | hj := List.mem_append.1 hj
  · exact hnumbers j hj
  · rw [List.mem_singleton.1 hj]
    exact hk

/-- A cursor that moves to the same element on both sides leaves matching pools. -/
theorem Pool.Matches.moved {size k : Nat} {place place' : Nat → Nat} {pool pool' : Pool τ}
    (h : pool.Matches size place place' pool') (number : Nat) (hk : k ≤ size) (memory : τ) :
    (pool.moved number ⟨place k, memory⟩).Matches size place place'
      (pool'.moved number ⟨place' k, memory⟩) := by
  obtain ⟨hstands, hvisits, _⟩ := h
  rename_i stands visits _
  have hset (place : Nat → Nat) :
      (indicesOf place stands).set number (place k) = indicesOf place (stands.set number k) :=
    List.map_set.symm
  simp only [Pool.moved, hset, indicesOf_concat]
  refine .intro ?_ (le_of_mem_concat hvisits hk) memory
  intro j hj
  obtain hj | rfl := List.mem_or_eq_of_mem_set hj
  · exact hstands j hj
  · exact hk

/-- What agrees on two subjects is replied alike. -/
theorem Agree.settle {size : Nat} {place place' : Nat → Nat} {pool pool' : Pool τ}
    {outcome outcome' : EStateM.Result Fault (Standing τ) (Answer ε)}
    (hagree : Agree size place place' outcome outcome')
    (h : pool.Matches size place place' pool') (number : Nat) :
    SameStep size place place' (pool.settle number outcome) (pool'.settle number outcome') := by
  cases hagree with
  | ok hk answer memory => exact ⟨.ok answer, h.moved number hk memory⟩
  | error hk hkind memory => exact ⟨.error hkind, h.moved number hk memory⟩

namespace Layout

variable [IndexSpace σ ε] [IndexSpace ρ ε] [BEq ε]
variable {subject : σ} {subject' : ρ} {elements : List ε} {place place' : Nat → Nat}

/-- Each question is answered alike, and leads to the same element. -/
theorem agree_question (layout : Layout subject elements place)
    (layout' : Layout subject' elements place') {k : Nat} (hk : k ≤ elements.length)
    {visits : List Nat} (hvisits : ∀ k ∈ visits, k ≤ elements.length) (memory : τ)
    (question : Question τ ε) :
    Agree elements.length place place'
      ((question.operation (indicesOf place visits) (place k)).move subject ⟨place k, memory⟩)
      ((question.operation (indicesOf place' visits) (place' k)).move subject'
        ⟨place' k, memory⟩) := by
  cases question with
  | isAtEnd =>
    apply Agree.map
    rw [layout.isAtEnd_eq hk, layout'.isAtEnd_eq hk]
    exact .ok hk _ _
  | remainder =>
    apply Agree.map
    rw [layout.remainder_eq hk, layout'.remainder_eq hk]
    exact .ok hk _ _
  | consumedSince visit =>
    apply Agree.map
    have hvisit := getD_le hvisits hk visit
    rw [indicesOf_getD, indicesOf_getD, layout.consumedSince_eq hvisit hk,
      layout'.consumedSince_eq hvisit hk]
    exact .ok hk _ _
  | advance => exact (layout.agree_advance layout' hk).map _
  | advanceBy distance => exact (layout.agree_advanceBy layout' hk distance).map _
  | advanceWhile test => exact (layout.agree_advanceWhile layout' hk test).map _
  | peek =>
    apply Agree.map
    rw [layout.peek_eq hk, layout'.peek_eq hk]
    exact .ok hk _ _
  | peek2 =>
    apply Agree.map
    rw [layout.peek2_eq hk, layout'.peek2_eq hk]
    exact .ok hk _ _
  | peek3 =>
    apply Agree.map
    rw [layout.peek3_eq hk, layout'.peek3_eq hk]
    exact .ok hk _ _
  | hasPrefix element =>
    apply Agree.map
    rw [layout.hasPrefix_eq hk, layout'.hasPrefix_eq hk]
    exact .ok hk _ _
  | startsWith expected =>
    apply Agree.map
    rw [layout.startsWith_eq hk, layout'.startsWith_eq hk]
    exact .ok hk _ _
  | pop => exact (layout.agree_pop layout' hk).map _
  | popElement element => exact (layout.agree_popElement layout' hk element).map _
  | popWhere test => exact (layout.agree_popWhere layout' hk test).map _
  | read count => exact (layout.agree_read layout' hk count).map _
  | readPrefix expected => exact (layout.agree_readPrefix layout' hk expected).map _
  | readWhile test => exact (layout.agree_readWhile layout' hk test).map _

omit [BEq ε] in
/-- A cursor can be made at the place of every element and behind the last one. -/
theorem at?_eq (layout : Layout subject elements place) {k : Nat} (hk : k ≤ elements.length) :
    Cursor.at? subject (place k) = .ok ⟨subject, place k⟩ := by
  rw [Cursor.at?, if_pos ⟨by omega, layout.place_le_end hk⟩]

omit [BEq ε] in
/-- A pool that starts at an element holds one cursor there, which has visited that place. -/
theorem start_eq (layout : Layout subject elements place) {k : Nat} (hk : k ≤ elements.length)
    (memory : τ) :
    Pool.start subject (place k) memory =
      .ok ⟨indicesOf place [k], indicesOf place [k], memory⟩ := by
  rw [Pool.start, layout.at?_eq hk]
  rfl

/-- What one step preserves: matching pools answer alike and match again. -/
theorem sameStep (layout : Layout subject elements place)
    (layout' : Layout subject' elements place') {pool pool' : Pool τ}
    (h : pool.Matches elements.length place place' pool') (request : Request τ ε) :
    SameStep elements.length place place' (pool.step subject request)
      (pool'.step subject' request) := by
  have hmatches := h
  obtain ⟨hstands, hvisits, memory⟩ := h
  rename_i stands visits
  cases request with
  | ask number question =>
    simp only [Pool.step, indicesOf_getElem?]
    cases hnumber : stands[number]? with
    | none => exact ⟨.ok _, hmatches⟩
    | some k =>
      have hk := hstands k (List.mem_of_getElem? hnumber)
      have hagree := layout.agree_question layout' hk hvisits memory question
      exact hagree.settle hmatches number
  | copy number =>
    simp only [Pool.step, indicesOf_getElem?]
    cases hnumber : stands[number]? with
    | none => exact ⟨.ok _, hmatches⟩
    | some k =>
      have hk := hstands k (List.mem_of_getElem? hnumber)
      simp only [Option.map_some, Cursor.copy, layout.at?_eq hk, layout'.at?_eq hk,
        indicesOf_concat]
      exact ⟨.ok _, .intro (le_of_mem_concat hstands hk) hvisits memory⟩

/-- What a whole run preserves. -/
theorem sameRun (layout : Layout subject elements place)
    (layout' : Layout subject' elements place') {pool pool' : Pool τ}
    (h : pool.Matches elements.length place place' pool') (requests : List (Request τ ε)) :
    List.Forall₂ (SameStep elements.length place place') (pool.run subject requests)
      (pool'.run subject' requests) := by
  induction requests generalizing pool pool' with
  | nil => exact .nil
  | cons request others ih =>
    have hstep := layout.sameStep layout' h request
    exact .cons hstep (ih hstep.2)

/-- Runs that begin with one cursor at the same element. -/
theorem sameRun_start (layout : Layout subject elements place)
    (layout' : Layout subject' elements place') {k : Nat} (hk : k ≤ elements.length) (memory : τ)
    (requests : List (Request τ ε)) :
    ∃ pool pool', Pool.start subject (place k) memory = .ok pool ∧
      Pool.start subject' (place' k) memory = .ok pool' ∧
      pool.Matches elements.length place place' pool' ∧
      List.Forall₂ (SameStep elements.length place place') (pool.run subject requests)
        (pool'.run subject' requests) := by
  have hle : ∀ j ∈ [k], j ≤ elements.length := by
    intro j hj
    rw [List.mem_singleton.1 hj]
    exact hk
  refine ⟨_, _, layout.start_eq hk memory, layout'.start_eq hk memory, ?_⟩
  have hmatches : Pool.Matches elements.length place place'
      ⟨indicesOf place [k], indicesOf place [k], memory⟩
      ⟨indicesOf place' [k], indicesOf place' [k], memory⟩ := .intro hle hle memory
  exact ⟨hmatches, layout.sameRun layout' hmatches requests⟩

end Layout

namespace Subject

/-- Cursors over a text and over the view of its encoding that begin at the same character reply
alike for as long as they run, and stay at the same characters: the number of the character in the
text is turned into the length of what is encoded before it. -/
theorem run_scalars_agrees (text : String) {k : Nat} (hk : k ≤ text.length) (memory : τ)
    (requests : List (Request τ Value)) :
    ∃ pool pool', Pool.start (ofText text) k memory = .ok pool ∧
      Pool.start (scalars (ScalarView.ofText text)) (byteOffset text.toList k) memory = .ok pool' ∧
      pool.Matches text.length id (byteOffset text.toList) pool' ∧
      List.Forall₂ (SameStep text.length id (byteOffset text.toList))
        (pool.run (ofText text) requests)
        (pool'.run (scalars (ScalarView.ofText text)) requests) := by
  have hlength : (text.toList.map Value.ofChar).length = text.length := by
    rw [List.length_map, String.length_toList]
  rw [← hlength] at hk ⊢
  exact (layout_text text).sameRun_start (layout_scalars text) hk memory requests

/-- Two cursors over the text aé and over its bytes: one takes é, and its copy steps back over two
bytes. -/
theorem run_scalars_agrees_stepping_back :
    1 ≤ "aé".length ∧
      ∃ pool pool', Pool.start (ofText "aé") 1 () = .ok pool ∧
        Pool.start (scalars (ScalarView.ofText "aé")) (byteOffset "aé".toList 1) () = .ok pool' ∧
        pool.Matches "aé".length id (byteOffset "aé".toList) pool' ∧
        List.Forall₂ (SameStep "aé".length id (byteOffset "aé".toList))
          (pool.run (ofText "aé") [.ask 0 .pop, .copy 0, .ask 1 (.advanceBy (-1))])
          (pool'.run (scalars (ScalarView.ofText "aé"))
            [.ask 0 .pop, .copy 0, .ask 1 (.advanceBy (-1))]) :=
  ⟨by decide, run_scalars_agrees "aé" (by decide) () _⟩

end Subject

end Scanning
