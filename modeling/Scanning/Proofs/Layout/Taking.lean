import Scanning.Proofs.Layout.Looking

namespace Scanning

open IndexSpace

variable {σ τ ε : Type} [IndexSpace σ ε]

/-- The elements at the front of a list that a test accepts one after the other: their number, what
the test remembers then, and its failure if it fails at the next one. -/
def accepted (test : Test τ ε) : List ε → τ → Nat × τ × Option Fault
  | [], memory => (0, memory, none)
  | x :: rest, memory =>
    match test x memory with
    | .error fault memory => (0, memory, some fault)
    | .ok false memory => (0, memory, none)
    | .ok true memory =>
      let (count, ending) := accepted test rest memory
      (count + 1, ending)

/-- How a run from the element number `k` ends when so many elements are accepted. -/
def ranFrom (place : Nat → Nat) (k : Nat) :
    Nat × τ × Option Fault → EStateM.Result Fault (Standing τ) Unit
  | (count, memory, none) => .ok () ⟨place (k + count), memory⟩
  | (count, memory, some fault) => .error fault ⟨place (k + count), memory⟩

/-- To accept one element and then others is to accept the others from the next one on. -/
theorem ranFrom_succ (place : Nat → Nat) (k : Nat) (run : Nat × τ × Option Fault) :
    ranFrom place k (run.1 + 1, run.2) = ranFrom place (k + 1) run := by
  obtain ⟨count, memory, ending⟩ := run
  cases ending with
  | none => simp only [ranFrom, Nat.add_comm count, Nat.add_assoc]
  | some fault => simp only [ranFrom, Nat.add_comm count, Nat.add_assoc]

theorem accepted_le (test : Test τ ε) (list : List ε) (memory : τ) :
    (accepted test list memory).1 ≤ list.length := by
  fun_induction accepted test list memory with
  | case1 | case2 | case3 => exact Nat.zero_le _
  | case4 x rest memory memory' htest count ending hrest ih =>
    rw [hrest] at ih
    simp only [List.length_cons]
    omega

/-- A test that neither remembers nor fails accepts the elements of its class. -/
theorem accepted_inClass (inClass : ε → Bool) (list : List ε) (memory : τ) :
    accepted (fun x => return inClass x) list memory =
      ((list.takeWhile inClass).length, memory, none) := by
  induction list generalizing memory with
  | nil => rfl
  | cons x rest ih =>
    have htest : (return inClass x : EStateM Fault τ Bool) memory = .ok (inClass x) memory := rfl
    rw [accepted, htest, List.takeWhile_cons]
    cases inClass x with
    | false => rfl
    | true =>
      dsimp only
      rw [ih]
      rfl

theorem Move.read_negative {subject : σ} {standing : Standing τ} {count : Int}
    (hcount : count < 0) :
    Move.read count subject standing = .error (.negativeCount count) standing := by
  rw [Move.read, if_pos hcount]

namespace Begins

variable {subject : σ} {elements : List ε} {place : Nat → Nat} {k : Nat} {memory : τ}

/-- Before the list of elements is over a step leads to the next of them. -/
theorem advance_eq (begins : Begins subject elements place) (hk : k < elements.length) :
    Move.advance subject ⟨place k, memory⟩ = .ok () ⟨place (k + 1), memory⟩ := by
  refine Move.consume_eq_ok.2 ⟨place (k + 1), ?_, rfl⟩
  dsimp only
  rw [if_neg (begins.place_ne_end k hk), begins.after_place k hk]
  rfl

/-- Before the list of elements is over there is an element to take. -/
theorem takeAt_eq (begins : Begins subject elements place) (hk : k < elements.length) :
    takeAt subject (place k) = .ok (some (elements[k], (place (k + 1) : Int))) := by
  rw [takeAt, if_neg (begins.place_ne_end k hk), begins.elementAt_place k hk,
    begins.after_place k hk]
  rfl

/-- Taking a tested element. -/
theorem popWhere_eq (begins : Begins subject elements place) (hk : k < elements.length)
    (test : Test τ ε) :
    Move.popWhere test subject ⟨place k, memory⟩ =
      match test elements[k] memory with
      | .error fault memory => .error fault ⟨place k, memory⟩
      | .ok false memory => .ok none ⟨place k, memory⟩
      | .ok true memory => .ok (some elements[k]) ⟨place (k + 1), memory⟩ := by
  rw [Move.popWhere, if_neg (begins.place_ne_end k hk), begins.elementAt_place k hk]
  dsimp only
  cases test elements[k] memory with
  | error fault memory => rfl
  | ok verdict memory =>
    cases verdict with
    | false => rfl
    | true => rw [begins.after_place k hk]

/-- One element is tested, and if it is accepted those behind it are. -/
theorem advanceWhile_next (begins : Begins subject elements place) (hk : k < elements.length)
    (test : Test τ ε) :
    Move.advanceWhile test subject ⟨place k, memory⟩ =
      match test elements[k] memory with
      | .error fault memory => .error fault ⟨place k, memory⟩
      | .ok false memory => .ok () ⟨place k, memory⟩
      | .ok true memory => Move.advanceWhile test subject ⟨place (k + 1), memory⟩ := by
  rw [Move.advanceWhile, Move.runFrom, if_neg (begins.place_ne_end k hk),
    begins.elementAt_place k hk]
  dsimp only
  cases test elements[k] memory with
  | error fault memory => rfl
  | ok verdict memory =>
    cases verdict with
    | false => rfl
    | true =>
      dsimp only
      split
      · rename_i hafter
        rw [begins.after_place k hk] at hafter
        cases hafter
      · rename_i next hafter
        rw [begins.after_place k hk] at hafter
        cases hafter
        rfl

/-- An element is taken if it is in the class. -/
theorem popWhere_inClass (begins : Begins subject elements place) (hk : k < elements.length)
    (inClass : ε → Bool) :
    Move.popWhere (fun x => return inClass x) subject ⟨place k, memory⟩ =
      if inClass elements[k] then .ok (some elements[k]) ⟨place (k + 1), memory⟩
      else .ok none ⟨place k, memory⟩ := by
  have htest : (return inClass elements[k] : EStateM Fault τ Bool) memory =
      .ok (inClass elements[k]) memory := rfl
  rw [begins.popWhere_eq hk, htest]
  cases inClass elements[k] <;> rfl

end Begins

namespace Layout

variable {subject : σ} {elements : List ε} {place : Nat → Nat} {k : Nat} {memory : τ}

/-- In front of the end a step leads to the next element. -/
theorem advance_eq (layout : Layout subject elements place) (hk : k < elements.length) :
    Move.advance subject ⟨place k, memory⟩ = .ok () ⟨place (k + 1), memory⟩ :=
  layout.begins.advance_eq hk

theorem advance_end (layout : Layout subject elements place) :
    Move.advance subject ⟨place elements.length, memory⟩ =
      .error (.outOfBounds .subjectExhausted) ⟨place elements.length, memory⟩ := by
  simp only [Move.advance, Move.consume]
  rw [if_pos ((layout.place_eq_end_iff (Nat.le_refl _)).2 rfl)]

/-- A move by a difference of numbers leads to the place of the element meant. -/
theorem advanceBy_eq (layout : Layout subject elements place) {target : Nat}
    (hk : k ≤ elements.length) (htarget : target ≤ elements.length) :
    Move.advanceBy (target - k) subject ⟨place k, memory⟩ = .ok () ⟨place target, memory⟩ := by
  refine Move.consume_eq_ok.2 ⟨place target, ?_, rfl⟩
  dsimp only
  rw [layout.offset_place k target hk htarget]
  rfl

/-- A move that would leave the elements is refused and the cursor stays. -/
theorem advanceBy_outside (layout : Layout subject elements place) (hk : k ≤ elements.length)
    {distance : Int} (hout : k + distance < 0 ∨ elements.length < k + distance) :
    ∃ cause, Move.advanceBy distance subject ⟨place k, memory⟩ =
      .error (.outOfBounds cause) ⟨place k, memory⟩ := by
  obtain ⟨cause, hoffset⟩ := layout.offset_outside k hk distance hout
  refine ⟨cause, ?_⟩
  simp only [Move.advanceBy, Move.consume, hoffset, bind, Except.bind]

theorem takeAt_eq (layout : Layout subject elements place) (hk : k < elements.length) :
    takeAt subject (place k) = .ok (some (elements[k], (place (k + 1) : Int))) :=
  layout.begins.takeAt_eq hk

theorem takeAt_end (layout : Layout subject elements place) :
    takeAt subject (place elements.length) = .ok none := by
  rw [takeAt, if_pos ((layout.place_eq_end_iff (Nat.le_refl _)).2 rfl)]

/-- In front of the end the current element is taken. -/
theorem pop_eq (layout : Layout subject elements place) (hk : k < elements.length) :
    Move.pop subject ⟨place k, memory⟩ = .ok (some elements[k]) ⟨place (k + 1), memory⟩ := by
  refine Move.consume_eq_ok.2 ⟨place (k + 1), ?_, rfl⟩
  dsimp only
  rw [layout.takeAt_eq hk]
  rfl

theorem pop_end (layout : Layout subject elements place) :
    Move.pop subject ⟨place elements.length, memory⟩ =
      .ok none ⟨place elements.length, memory⟩ := by
  refine Move.consume_eq_ok.2 ⟨place elements.length, ?_, rfl⟩
  dsimp only
  rw [layout.takeAt_end]
  rfl

/-- The current element is taken exactly if it is the expected one. -/
theorem popElement_eq [BEq ε] (layout : Layout subject elements place) (hk : k < elements.length)
    (element : ε) :
    Move.popElement element subject ⟨place k, memory⟩ =
      if elements[k] == element then .ok true ⟨place (k + 1), memory⟩
      else .ok false ⟨place k, memory⟩ := by
  simp only [Move.popElement, Move.consume]
  rw [if_neg (layout.place_ne_end hk), layout.elementAt_place k hk]
  dsimp only [bind, Except.bind]
  by_cases hsame : (elements[k] == element) = true
  · rw [if_pos hsame, if_pos hsame, layout.after_place k hk]
    rfl
  · rw [if_neg hsame, if_neg hsame]
    rfl

theorem popElement_end [BEq ε] (layout : Layout subject elements place) (element : ε) :
    Move.popElement element subject ⟨place elements.length, memory⟩ =
      .ok false ⟨place elements.length, memory⟩ := by
  simp only [Move.popElement, Move.consume]
  rw [if_pos ((layout.place_eq_end_iff (Nat.le_refl _)).2 rfl)]

/-- Expected elements are read exactly if the list goes on with them. -/
theorem readPrefix_eq [BEq ε] (layout : Layout subject elements place)
    (hk : k ≤ elements.length) (expected : List ε) :
    Move.readPrefix expected subject ⟨place k, memory⟩ =
      if goesOn (elements.drop k) expected then .ok true ⟨place (k + expected.length), memory⟩
      else .ok false ⟨place k, memory⟩ := by
  simp only [Move.readPrefix, Move.consume]
  rw [layout.prefixEnd_eq hk]
  cases goesOn (elements.drop k) expected <;> rfl

/-- As many elements are read as asked for, if there are that many. -/
theorem read_eq (layout : Layout subject elements place) {count : Nat}
    (hcount : k + count ≤ elements.length) :
    Move.read count subject ⟨place k, memory⟩ =
      .ok (some ((elements.drop k).take count)) ⟨place (k + count), memory⟩ := by
  have hlimited : offsetLimited subject (place k) count (endIndex subject) =
      .ok (some (place (k + count) : Int)) := by
    have hoffset := layout.offset_place k (k + count) (by omega) hcount
    rw [show ((k + count : Nat) : Int) - k = count by omega] at hoffset
    rw [← layout.place_length, layout.offsetLimited_place k _ (by omega) (Nat.le_refl _),
      if_neg (by unfold Crosses; omega), hoffset]
    rfl
  rw [Move.read, if_neg (by omega), hlimited]
  dsimp only
  rw [layout.slice_place k (k + count) (by omega) hcount, List.drop_take, Nat.add_sub_cancel_left]

theorem read_short (layout : Layout subject elements place) {count : Nat}
    (hk : k ≤ elements.length) (hcount : elements.length < k + count) :
    Move.read count subject ⟨place k, memory⟩ = .ok none ⟨place k, memory⟩ := by
  have hlimited : offsetLimited subject (place k) count (endIndex subject) = .ok none := by
    rw [← layout.place_length, layout.offsetLimited_place k _ hk (Nat.le_refl _),
      if_pos (.inl ⟨by omega, by omega, by omega⟩)]
  rw [Move.read, if_neg (by omega), hlimited]

/-- A run leaves the accepted elements behind, also when the test fails. -/
theorem advanceWhile_eq (layout : Layout subject elements place) (hk : k ≤ elements.length)
    (test : Test τ ε) :
    Move.advanceWhile test subject ⟨place k, memory⟩ =
      ranFrom place k (accepted test (elements.drop k) memory) := by
  obtain ⟨room, hroom⟩ : ∃ room, elements.length - k = room := ⟨_, rfl⟩
  induction room generalizing k memory with
  | zero =>
    rw [Move.advanceWhile, Move.runFrom, if_pos ((layout.place_eq_end_iff hk).2 (by omega)),
      List.drop_eq_nil_of_le (by omega)]
    rfl
  | succ room ih =>
    rw [layout.begins.advanceWhile_next (by omega), List.drop_eq_getElem_cons (by omega), accepted]
    cases test elements[k] memory with
    | error fault memory' => rfl
    | ok verdict memory' =>
      cases verdict with
      | false => rfl
      | true =>
        dsimp only
        rw [ih (by omega) (by omega)]
        exact (ranFrom_succ place k _).symm

/-- A run over a class leaves behind the longest stretch of elements in it. -/
theorem advanceOver_eq (layout : Layout subject elements place) (hk : k ≤ elements.length)
    (inClass : ε → Bool) :
    Move.advanceOver inClass subject ⟨place k, memory⟩ =
      .ok () ⟨place (k + ((elements.drop k).takeWhile inClass).length), memory⟩ := by
  rw [Move.advanceOver, layout.advanceWhile_eq hk, accepted_inClass]
  rfl

/-- Reading a run gives the accepted elements; nothing is given when the test fails. -/
theorem readWhile_eq (layout : Layout subject elements place) (hk : k ≤ elements.length)
    (test : Test τ ε) :
    Move.readWhile test subject ⟨place k, memory⟩ =
      match accepted test (elements.drop k) memory with
      | (count, memory, none) => .ok ((elements.drop k).take count) ⟨place (k + count), memory⟩
      | (count, memory, some fault) => .error fault ⟨place (k + count), memory⟩ := by
  have hle := accepted_le test (elements.drop k) memory
  have hrun : Move.advanceWhile test subject ⟨place k, memory⟩ = _ := layout.advanceWhile_eq hk test
  obtain ⟨⟨count, memory', ending⟩, haccepted⟩ :
      ∃ run, accepted test (elements.drop k) memory = run := ⟨_, rfl⟩
  rw [haccepted] at hle hrun ⊢
  rw [List.length_drop] at hle
  cases ending with
  | none =>
    have hslice : Move.consumedSince (place k) subject ⟨place (k + count), memory'⟩ = _ :=
      layout.consumedSince_eq hk (by omega)
    rw [List.drop_take, Nat.add_sub_cancel_left] at hslice
    exact Move.bind_eq_ok.2 ⟨place k, _, rfl, Move.bind_eq_ok.2 ⟨(), _, hrun, hslice⟩⟩
  | some fault =>
    have hstart : Move.position subject ⟨place k, memory⟩ =
        .ok (place k : Int) (⟨place k, memory⟩ : Standing τ) := rfl
    simp only [Move.readWhile, bind, ReaderT.bind, EStateM.bind, hstart, hrun, ranFrom]

/-- The test is asked about the current element, which is taken if it is accepted. -/
theorem popWhere_eq (layout : Layout subject elements place) (hk : k < elements.length)
    (test : Test τ ε) :
    Move.popWhere test subject ⟨place k, memory⟩ =
      match test elements[k] memory with
      | .error fault memory => .error fault ⟨place k, memory⟩
      | .ok false memory => .ok none ⟨place k, memory⟩
      | .ok true memory => .ok (some elements[k]) ⟨place (k + 1), memory⟩ :=
  layout.begins.popWhere_eq hk test

theorem popWhere_inClass (layout : Layout subject elements place) (hk : k < elements.length)
    (inClass : ε → Bool) :
    Move.popWhere (fun x => return inClass x) subject ⟨place k, memory⟩ =
      if inClass elements[k] then .ok (some elements[k]) ⟨place (k + 1), memory⟩
      else .ok none ⟨place k, memory⟩ :=
  layout.begins.popWhere_inClass hk inClass

theorem popWhere_end (layout : Layout subject elements place) (test : Test τ ε) :
    Move.popWhere test subject ⟨place elements.length, memory⟩ =
      .ok none ⟨place elements.length, memory⟩ := by
  rw [Move.popWhere, if_pos ((layout.place_eq_end_iff (Nat.le_refl _)).2 rfl)]

end Layout

end Scanning
