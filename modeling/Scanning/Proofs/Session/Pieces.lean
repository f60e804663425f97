import Scanning.Proofs.Layout.Unfolding
import Scanning.Session.Matching

namespace Scanning

open IndexSpace

namespace Value

mutual

/-- Every value is the same as itself. -/
theorem same_refl : ∀ value : Value, value.same value = true
  | none => rfl
  | bool b => by cases b <;> rfl
  | int n => beq_self_eq_true n
  | text s => by rw [same, beq_self_eq_true]
  | bytes isMutable data => by rw [same, beq_self_eq_true]
  | list items => by rw [same, allSame_refl items]
  | tuple items => by rw [same, allSame_refl items]

theorem allSame_refl : ∀ values : List Value, allSame values values = true
  | [] => by rw [allSame]
  | a :: as => by rw [allSame, same_refl a, allSame_refl as, Bool.true_and]

end

theorem allSame_append {as bs as' bs' : List Value} (ha : allSame as as' = true)
    (hb : allSame bs bs' = true) : allSame (as ++ bs) (as' ++ bs') = true := by
  induction as generalizing as' with
  | nil =>
    cases as' with
    | nil => exact hb
    | cons a' as' => simp [allSame] at ha
  | cons a as ih =>
    cases as' with
    | nil => simp [allSame] at ha
    | cons a' as' =>
      rw [allSame, Bool.and_eq_true] at ha
      rw [List.cons_append, List.cons_append, allSame, ha.1, ih ha.2, Bool.true_and]

/-- A sequence that goes on with some values begins with values that are the same as these. -/
theorem allSame_of_goesOn {values expected : List Value} (h : goesOn values expected = true) :
    allSame (values.take expected.length) expected = true := by
  fun_induction goesOn values expected with
  | case1 => rw [List.length_nil, List.take_zero, allSame]
  | case2 => cases h
  | case3 x rest first others ih =>
    obtain ⟨hfirst, hothers⟩ := (Bool.and_eq_true _ _).mp h
    rw [List.length_cons, List.take_succ_cons, allSame, show x.same first = true from hfirst,
      ih hothers, Bool.true_and]

/-- The elements of a value that is made of some. -/
def parts : Value → List Value
  | text s => s.toList.map ofChar
  | bytes _ data => data.map ofByte
  | list items | tuple items => items
  | none | bool _ | int _ => []

end Value

namespace Session

open Pattern (Alphabet)

/-- What the whole of a match is: the first of its pieces. -/
def Found.whole (found : Found) : Value := found.pieces.head?.getD .none

/-- A pattern whose matches show as a whole what they span. -/
def Engine.ShowsWhole (engine : Engine) : Prop :=
  ∀ ⦃alphabet : Alphabet⦄ ⦃units : Array Nat⦄ ⦃found : Found⦄,
    engine.find alphabet units = .ok (some found) →
      found.whole = pieceOf alphabet units (some (0, found.length))

/-- The whole of a match is the piece from the start that is as long as the match. -/
theorem whole_of_foundIn {regex : Pattern.Regex} {alphabet : Alphabet} {units : Array Nat}
    {found : Found} (h : foundIn regex alphabet units = .ok (some found)) :
    found.whole = pieceOf alphabet units (some (0, found.length)) := by
  unfold foundIn at h
  split at h
  · cases h
  split at h
  · cases h
  · cases h
    rfl

/-- Patterns that are read from a text do so. -/
theorem PatternText.showsWhole (pattern : PatternText) : pattern.engine.ShowsWhole := by
  intro alphabet units found h
  obtain ⟨regex, -, hfound⟩ := Fault.bind_eq_ok.1 h
  exact whole_of_foundIn hfound

end Session

namespace Subject

open Pattern (Alphabet)

/-- The units from a place on are the elements from there on, one for one. -/
structure UnitsFrom (elements : List Value) (place : Nat → Nat) (k : Nat) (alphabet : Alphabet)
    (units : Array Nat) : Prop where
  size_eq : k + units.size = elements.length
  place_add (count : Nat) : place (k + count) = place k + count
  parts_eq (count : Nat) :
    (Session.pieceOf alphabet units (some (0, count))).parts = (elements.drop k).take count

/-- A layout of the units of the subject too, if it has units. -/
structure Spread (subject : Subject) (elements : List Value) (place : Nat → Nat) : Prop where
  layout : Layout subject elements place
  units {k : Nat} (hk : k ≤ elements.length) {alphabet : Alphabet} {units : Array Nat}
    (h : subject.units (place k) = .ok (alphabet, units)) :
    UnitsFrom elements place k alphabet units

theorem toList_extract_map {α : Type} (unit : α → Nat) (elements : List α) (count : Nat) :
    ((elements.map unit).toArray.extract 0 count).toList = (elements.take count).map unit := by
  simp

/-- The piece of a text that a match shows has the characters that stand there for its parts. -/
theorem parts_pieceOf_text (chars : List Char) (count : Nat) :
    (Session.pieceOf .text (chars.map Char.toNat).toArray (some (0, count))).parts =
      (chars.map Value.ofChar).take count := by
  have hback : Char.ofNat ∘ Char.toNat = id := funext Char.ofNat_toNat
  rw [Session.pieceOf, toList_extract_map]
  simp [Value.parts, hback]

theorem parts_pieceOf_bytes (data : List UInt8) (count : Nat) :
    (Session.pieceOf .bytes (data.map UInt8.toNat).toArray (some (0, count))).parts =
      (data.map Value.ofByte).take count := by
  have hback : UInt8.ofNat ∘ UInt8.toNat = id := funext fun byte => UInt8.ofNat_toNat
  rw [Session.pieceOf, toList_extract_map]
  simp [Value.parts, hback]

/-- Where places are numbers of elements, units from there on are those of the elements. -/
theorem unitsFrom_id {α : Type} {elements : Array α} {form : α → Value} {unit : α → Nat}
    {alphabet : Alphabet} {k : Nat} (hk : k ≤ (elements.toList.map form).length)
    (hparts : ∀ (others : List α) (count : Nat),
      (Session.pieceOf alphabet (others.map unit).toArray (some (0, count))).parts =
        (others.map form).take count) :
    UnitsFrom (elements.toList.map form) id k alphabet
      ((sliceBetween elements k elements.size).map unit).toArray := by
  have hrest : sliceBetween elements k elements.size = elements.toList.drop k := by
    rw [sliceBetween_natCast, ← Array.length_toList, List.take_length]
  rw [hrest]
  refine ⟨?_, fun count => rfl, fun count => ?_⟩
  · rw [List.length_map] at hk
    rw [List.size_toArray, List.length_map, List.length_map, List.length_drop,
      Nat.add_sub_cancel' hk]
  · rw [hparts, List.map_drop]

/-- The elements of a text are spread over the numbers of its characters. -/
theorem spread_characters (characters : Sequence Char) :
    Spread (text characters) (characters.elements.toList.map Value.ofChar) id where
  layout := layout_characters characters
  units {_} hk {_ _} h := by
    cases h
    exact unitsFrom_id hk parts_pieceOf_text

theorem spread_bytes (data : Sequence UInt8) :
    Spread (bytes data) (data.elements.toList.map Value.ofByte) id where
  layout := layout_bytes data
  units {_} hk {_ _} h := by
    cases h
    exact unitsFrom_id hk parts_pieceOf_bytes

theorem spread_items (values : Sequence Value) :
    Spread (items values) values.elements.toList id where
  layout := layout_items values
  units {_} _ {_ _} h := by cases h

/-- The characters of a text in bytes are spread over the places at which their encodings begin. -/
theorem spread_scalars (text : String) :
    Spread (scalars (ScalarView.ofText text)) (text.toList.map Value.ofChar)
      (Utf8.byteOffset text.toList) where
  layout := layout_scalars text
  units {_} _ {_ _} h := by cases h

/-- A subject of any kind is spread from each of its places on: the place is that of one of its
elements, or the end. -/
theorem exists_spread {subject : Subject} {position : Int} (h : subject.HasPlace position) :
    ∃ elements place, ∃ k ≤ elements.length, Spread subject elements place ∧ position = place k := by
  refine HasPlace.cases_kind ?_ ?_ ?_ ?_ h
  · intro characters k hk
    exact ⟨_, _, k, (List.length_map _).symm ▸ hk, spread_characters characters, rfl⟩
  · intro data k hk
    exact ⟨_, _, k, (List.length_map _).symm ▸ hk, spread_bytes data, rfl⟩
  · intro values k hk
    exact ⟨_, _, k, hk, spread_items values, rfl⟩
  · intro text k hk
    exact ⟨_, _, k, (List.length_map _).symm ▸ hk, spread_scalars text, rfl⟩

end Subject

namespace Session

variable {τ : Type}

/-- The operations that take elements, those with a pattern for patterns that show what they span. -/
inductive Consuming (τ : Type) where
  | pop
  | popElement (element : Value)
  | popWhere (test : Test τ Value)
  | read (count : Int)
  | readPrefix (elements : List Value)
  | readWhile (test : Test τ Value)
  | readMatch (engine : Engine) (hwhole : engine.ShowsWhole)

namespace Consuming

/-- What the answer of an operation says that it has taken: the elements that it gives, those that it
was given and says yes to, or the whole of its match. -/
def take : Consuming τ → Move Subject τ (List Value)
  | pop => Option.toList <$> Move.pop
  | popElement element => (fun taken => if taken then [element] else []) <$> Move.popElement element
  | popWhere test => Option.toList <$> Move.popWhere test
  | read count => (fun found => found.getD []) <$> Move.read count
  | readPrefix elements => (fun taken => if taken then elements else []) <$> Move.readPrefix elements
  | readWhile test => Move.readWhile test
  | readMatch engine _ => (fun found => (found.map (·.whole.parts)).getD []) <$> Session.readMatch engine

/-- What an operation that fails leaves behind all the same: the elements that the test of a run has
accepted before it failed. -/
def abandoned (operation : Consuming τ) (subject : Subject) (standing : Standing τ) : List Value :=
  match operation, Move.remainder subject standing with
  | readWhile test, .ok rest _ => rest.take (accepted test rest standing.memory).1
  | _, _ => []

/-- The piece that an operation takes and where it leads, whether or not it fails. -/
def step (operation : Consuming τ) (subject : Subject) (standing : Standing τ) :
    List Value × Standing τ :=
  match operation.take subject standing with
  | .ok piece after => (piece, after)
  | .error _ after => (operation.abandoned subject standing, after)

end Consuming

/-- The pieces that operations take one after the other, and where they lead. -/
def consume (subject : Subject) : List (Consuming τ) → Standing τ → List (List Value) × Standing τ
  | [], standing => ([], standing)
  | operation :: others, standing =>
    let (piece, after) := operation.step subject standing
    let (pieces, stop) := consume subject others after
    (piece :: pieces, stop)

variable {subject : Subject} {elements : List Value} {place : Nat → Nat} {k : Nat} {memory : τ}

/-- A piece is the next so many elements, and leads past them. -/
structure Takes (elements : List Value) (place : Nat → Nat) (k : Nat)
    (outcome : List Value × Standing τ) (count : Nat) : Prop where
  position_eq : outcome.2.position = place (k + count)
  le_length : k + count ≤ elements.length
  same : Value.allSame ((elements.drop k).take count) outcome.1 = true

/-- An operation that gives no piece and stays has taken no element. -/
theorem takes_nothing (hk : k ≤ elements.length) :
    Takes elements place k ([], (⟨place k, memory⟩ : Standing τ)) 0 where
  position_eq := rfl
  le_length := hk
  same := by rw [List.take_zero, Value.allSame]

/-- The next elements, as many as are there, are taken by an operation that gives them and ends
behind them. -/
theorem takes_elements {count : Nat} (h : k + count ≤ elements.length) :
    Takes elements place k
      ((elements.drop k).take count, (⟨place (k + count), memory⟩ : Standing τ)) count where
  position_eq := rfl
  le_length := h
  same := Value.allSame_refl _

/-- One piece behind the other. -/
theorem Takes.append {piece others : List Value} {after stop : Standing τ} {count count' : Nat}
    (h : Takes elements place k (piece, after) count)
    (h' : Takes elements place (k + count) (others, stop) count') :
    Takes elements place k (piece ++ others, stop) (count + count') where
  position_eq := by rw [h'.position_eq, Nat.add_assoc]
  le_length := by
    have := h'.le_length
    omega
  same := by
    rw [List.take_add, List.drop_drop]
    exact Value.allSame_append h.same h'.same

namespace Consuming

theorem step_of_ok {operation : Consuming τ} {standing after : Standing τ} {piece : List Value}
    (h : operation.take subject standing = .ok piece after) :
    operation.step subject standing = (piece, after) := by
  rw [step, h]

theorem step_of_error {operation : Consuming τ} {standing after : Standing τ} {fault : Fault}
    (h : operation.take subject standing = .error fault after) :
    operation.step subject standing = (operation.abandoned subject standing, after) := by
  rw [step, h]

end Consuming

/-- An element that is the same as the next one. -/
theorem takes_same {element : Value} (hk : k < elements.length)
    (h : elements[k].same element = true) :
    Takes elements place k ([element], (⟨place (k + 1), memory⟩ : Standing τ)) 1 where
  position_eq := rfl
  le_length := hk
  same := by
    rw [List.drop_eq_getElem_cons hk, List.take_succ_cons, List.take_zero, Value.allSame, h,
      Value.allSame, Bool.true_and]

section Steps

variable (layout : Layout subject elements place)
include layout

theorem takes_pop (hk : k ≤ elements.length) :
    ∃ count, Takes elements place k ((Consuming.pop).step subject ⟨place k, memory⟩) count := by
  by_cases hend : k = elements.length
  · subst hend
    rw [Consuming.step_of_ok (Move.map_eq_ok.2 ⟨_, layout.pop_end, rfl⟩)]
    exact ⟨0, takes_nothing hk⟩
  · have hlt : k < elements.length := by omega
    rw [Consuming.step_of_ok (Move.map_eq_ok.2 ⟨_, layout.pop_eq hlt, rfl⟩)]
    exact ⟨1, takes_same hlt (Value.same_refl _)⟩

theorem takes_popElement (hk : k ≤ elements.length) (element : Value) :
    ∃ count, Takes elements place k
      ((Consuming.popElement element).step subject ⟨place k, memory⟩) count := by
  by_cases hend : k = elements.length
  · subst hend
    rw [Consuming.step_of_ok (Move.map_eq_ok.2 ⟨_, layout.popElement_end element, rfl⟩)]
    exact ⟨0, takes_nothing hk⟩
  · have hlt : k < elements.length := by omega
    have hpop : Move.popElement element subject ⟨place k, memory⟩ = _ :=
      layout.popElement_eq hlt element
    cases hsame : elements[k] == element with
    | true =>
      rw [hsame, if_pos rfl] at hpop
      rw [Consuming.step_of_ok (Move.map_eq_ok.2 ⟨_, hpop, rfl⟩)]
      exact ⟨1, takes_same hlt hsame⟩
    | false =>
      rw [hsame, if_neg Bool.false_ne_true] at hpop
      rw [Consuming.step_of_ok (Move.map_eq_ok.2 ⟨_, hpop, rfl⟩)]
      exact ⟨0, takes_nothing hk⟩

theorem takes_popWhere (hk : k ≤ elements.length) (test : Test τ Value) :
    ∃ count, Takes elements place k
      ((Consuming.popWhere test).step subject ⟨place k, memory⟩) count := by
  by_cases hend : k = elements.length
  · subst hend
    rw [Consuming.step_of_ok (Move.map_eq_ok.2 ⟨_, layout.popWhere_end test, rfl⟩)]
    exact ⟨0, takes_nothing hk⟩
  · have hlt : k < elements.length := by omega
    have hpop : Move.popWhere test subject ⟨place k, memory⟩ = _ := layout.popWhere_eq hlt test
    cases htest : test elements[k] memory with
    | error fault memory' =>
      rw [htest] at hpop
      rw [Consuming.step_of_error (Move.map_of_error hpop)]
      exact ⟨0, takes_nothing hk⟩
    | ok verdict memory' =>
      rw [htest] at hpop
      cases verdict with
      | true =>
        rw [Consuming.step_of_ok (Move.map_eq_ok.2 ⟨_, hpop, rfl⟩)]
        exact ⟨1, takes_same hlt (Value.same_refl _)⟩
      | false =>
        rw [Consuming.step_of_ok (Move.map_eq_ok.2 ⟨_, hpop, rfl⟩)]
        exact ⟨0, takes_nothing hk⟩

/-- Reading a number of elements takes as many, or nothing when there are fewer or the number is
negative. -/
theorem takes_read (hk : k ≤ elements.length) (count : Int) :
    ∃ count', Takes elements place k
      ((Consuming.read count).step subject ⟨place k, memory⟩) count' := by
  obtain hneg | hpos := Int.lt_or_le count 0
  · rw [Consuming.step_of_error (Move.map_of_error (Move.read_negative hneg))]
    exact ⟨0, takes_nothing hk⟩
  obtain ⟨count, rfl⟩ := Int.eq_ofNat_of_zero_le hpos
  by_cases hcount : k + count ≤ elements.length
  · rw [Consuming.step_of_ok (Move.map_eq_ok.2 ⟨_, layout.read_eq hcount, rfl⟩)]
    exact ⟨count, takes_elements hcount⟩
  · rw [Consuming.step_of_ok (Move.map_eq_ok.2 ⟨_, layout.read_short hk (by omega), rfl⟩)]
    exact ⟨0, takes_nothing hk⟩

/-- Reading a prefix takes elements that are the same as those of the prefix, or nothing. -/
theorem takes_readPrefix (hk : k ≤ elements.length) (expected : List Value) :
    ∃ count, Takes elements place k
      ((Consuming.readPrefix expected).step subject ⟨place k, memory⟩) count := by
  have hread : Move.readPrefix expected subject ⟨place k, memory⟩ = _ :=
    layout.readPrefix_eq hk expected
  cases hgoes : goesOn (elements.drop k) expected with
  | true =>
    rw [hgoes, if_pos rfl] at hread
    rw [Consuming.step_of_ok (Move.map_eq_ok.2 ⟨_, hread, rfl⟩)]
    have hle := length_le_of_goesOn hgoes
    rw [List.length_drop] at hle
    exact ⟨expected.length, rfl, by omega, Value.allSame_of_goesOn hgoes⟩
  | false =>
    rw [hgoes, if_neg Bool.false_ne_true] at hread
    rw [Consuming.step_of_ok (Move.map_eq_ok.2 ⟨_, hread, rfl⟩)]
    exact ⟨0, takes_nothing hk⟩

/-- Reading under a test takes the elements that it has accepted, also when it raises then. -/
theorem takes_readWhile (hk : k ≤ elements.length) (test : Test τ Value) :
    ∃ count, Takes elements place k
      ((Consuming.readWhile test).step subject ⟨place k, memory⟩) count := by
  have hread : (Consuming.readWhile test).take subject ⟨place k, memory⟩ = _ :=
    layout.readWhile_eq hk test
  have hle := accepted_le test (elements.drop k) memory
  rw [List.length_drop] at hle
  obtain ⟨⟨count, memory', ending⟩, haccepted⟩ :
      ∃ run, accepted test (elements.drop k) memory = run := ⟨_, rfl⟩
  rw [haccepted] at hread hle
  dsimp only at hread hle
  have hcount : k + count ≤ elements.length := by omega
  cases ending with
  | none =>
    rw [Consuming.step_of_ok hread]
    exact ⟨count, takes_elements hcount⟩
  | some fault =>
    have hleft : (Consuming.readWhile test).abandoned subject ⟨place k, memory⟩ =
        (elements.drop k).take count := by
      simp only [Consuming.abandoned, layout.remainder_eq hk, haccepted]
    rw [Consuming.step_of_error hread, hleft]
    exact ⟨count, takes_elements hcount⟩

end Steps

theorem readMatch_of_matchAt {engine : Engine} {position : Int} {found : Option Found}
    (h : matchAt engine subject position = .ok found) :
    readMatch engine subject (⟨position, memory⟩ : Standing τ) =
      .ok found ⟨position + (found.map (·.length)).getD 0, memory⟩ := by
  cases found <;> simp [readMatch, Move.consume, h, bind, Except.bind, pure, Except.pure]

/-- Reading a match takes the elements that the match shows. -/
theorem takes_readMatch (spread : Subject.Spread subject elements place)
    (hk : k ≤ elements.length) {engine : Engine} (hwhole : engine.ShowsWhole) :
    ∃ count, Takes elements place k
      ((Consuming.readMatch engine hwhole).step subject ⟨place k, memory⟩) count := by
  cases hmatch : matchAt engine subject (place k) with
  | error fault =>
    have hread : readMatch engine subject (⟨place k, memory⟩ : Standing τ) =
        .error fault ⟨place k, memory⟩ := by
      simp [readMatch, Move.consume, hmatch, bind, Except.bind]
    rw [Consuming.step_of_error (Move.map_of_error hread)]
    exact ⟨0, takes_nothing hk⟩
  | ok found =>
    rw [Consuming.step_of_ok (Move.map_eq_ok.2 ⟨_, readMatch_of_matchAt hmatch, rfl⟩)]
    cases found with
    | none => exact ⟨0, by simpa using takes_nothing hk⟩
    | some found =>
      obtain ⟨_, -, hmatch⟩ := Fault.bind_eq_ok.1 hmatch
      obtain ⟨⟨alphabet, units⟩, hunits, hfind⟩ := Fault.bind_eq_ok.1 hmatch
      have hfrom := spread.units hk hunits
      have hlength := engine.length_le hfind
      have hsize := hfrom.size_eq
      have hparts : found.whole.parts = (elements.drop k).take found.length := by
        rw [hwhole hfind, hfrom.parts_eq]
      refine ⟨found.length, ?_, by omega, ?_⟩
      · have hadd := hfrom.place_add found.length
        simp only [Option.map_some, Option.getD_some]
        omega
      · rw [Option.map_some, Option.getD_some, hparts]
        exact Value.allSame_refl _

/-- Whatever the operation, its piece is the elements that it leaves behind. -/
theorem exists_takes (spread : Subject.Spread subject elements place) (hk : k ≤ elements.length)
    (operation : Consuming τ) (memory : τ) :
    ∃ count, Takes elements place k (operation.step subject ⟨place k, memory⟩) count := by
  have layout := spread.layout
  cases operation with
  | pop => exact takes_pop layout hk
  | popElement element => exact takes_popElement layout hk element
  | popWhere test => exact takes_popWhere layout hk test
  | read count => exact takes_read layout hk count
  | readPrefix elements => exact takes_readPrefix layout hk elements
  | readWhile test => exact takes_readWhile layout hk test
  | readMatch engine hwhole => exact takes_readMatch spread hk hwhole

/-- The pieces of a run, put together, are the elements that the run leaves behind. -/
theorem exists_takes_consume (spread : Subject.Spread subject elements place)
    (hk : k ≤ elements.length) (operations : List (Consuming τ)) (memory : τ) :
    ∃ count, Takes elements place k
      ((consume subject operations ⟨place k, memory⟩).1.flatten,
        (consume subject operations ⟨place k, memory⟩).2) count := by
  induction operations generalizing k memory with
  | nil => exact ⟨0, takes_nothing hk⟩
  | cons operation others ih =>
    obtain ⟨count, htakes⟩ := exists_takes spread hk operation memory
    obtain ⟨⟨piece, position, memory'⟩, hstep⟩ :
        ∃ outcome, operation.step subject ⟨place k, memory⟩ = outcome := ⟨_, rfl⟩
    rw [hstep] at htakes
    rw [consume, hstep]
    -- A piece ends at a place again, so the others begin at one.
    obtain rfl : position = place (k + count) := htakes.position_eq
    obtain ⟨count', htakes'⟩ := ih htakes.le_length memory'
    exact ⟨count + count', htakes.append htakes'⟩

/-- Operations in two parts leave the cursor where the second part does, from where the first has
left it. -/
theorem consume_append (earlier later : List (Consuming τ)) (standing : Standing τ) :
    (consume subject (earlier ++ later) standing).2 =
      (consume subject later (consume subject earlier standing).2).2 := by
  induction earlier generalizing standing with
  | nil => rfl
  | cons operation others ih => exact ih _

/-- What a run has handed out between two standings: the cursor has not gone back, and the pieces put
together are what lies between, which what remains completes to what remained before. -/
structure Gapless (subject : Subject) (start : Standing τ) (pieces : List (List Value))
    (stop : Standing τ) : Prop where
  le : start.position ≤ stop.position
  pieces_same : ∃ consumed rest,
    Move.consumedSince start.position subject stop = .ok consumed stop ∧
    Value.allSame consumed pieces.flatten = true ∧
    Move.remainder subject stop = .ok rest stop ∧
    Move.remainder subject start = .ok (consumed ++ rest) start

/-- Where some elements have been taken, the pieces one after the other are what the cursor has
consumed, and the rest of the elements is what it leaves. -/
theorem gapless_of_takes {pieces : List (List Value)} {stop : Standing τ} {count : Nat}
    (layout : Layout subject elements place) (hk : k ≤ elements.length)
    (h : Takes elements place k (pieces.flatten, stop) count) :
    Gapless subject ⟨place k, memory⟩ pieces stop := by
  obtain ⟨position, memory'⟩ := stop
  obtain rfl : position = place (k + count) := h.position_eq
  have hle := h.le_length
  have hconsumed : Move.consumedSince (place k) subject ⟨place (k + count), memory'⟩ = _ :=
    layout.consumedSince_eq hk hle
  rw [List.drop_take, Nat.add_sub_cancel_left] at hconsumed
  have hremainder : Move.remainder subject ⟨place k, memory⟩ = _ := layout.remainder_eq hk
  rw [← List.take_append_drop count (elements.drop k), List.drop_drop] at hremainder
  exact ⟨Int.ofNat_le.2 (layout.place_le (Nat.le_add_right k count) hle), _, _, hconsumed, h.same,
    layout.remainder_eq hle, hremainder⟩

/-- The position after some of the operations is never behind the one after all of them. -/
theorem le_consume (spread : Subject.Spread subject elements place) (hk : k ≤ elements.length)
    {earlier operations : List (Consuming τ)} (hfront : earlier <+: operations) (memory : τ) :
    (consume subject earlier ⟨place k, memory⟩).2.position ≤
      (consume subject operations ⟨place k, memory⟩).2.position := by
  obtain ⟨later, rfl⟩ := hfront
  obtain ⟨count, hearlier⟩ := exists_takes_consume spread hk earlier memory
  obtain ⟨⟨position, memory'⟩, hbetween⟩ :
      ∃ between, (consume subject earlier ⟨place k, memory⟩).2 = between := ⟨_, rfl⟩
  rw [hbetween] at hearlier
  obtain rfl : position = place (k + count) := hearlier.position_eq
  obtain ⟨count', hlater⟩ := exists_takes_consume spread hearlier.le_length later memory'
  rw [consume_append, hbetween, hlater.position_eq]
  exact Int.ofNat_le.2 (spread.layout.place_le (Nat.le_add_right _ _) hlater.le_length)

/-- Whatever is taken from where a cursor may stand, and by which operations, no element is lost,
repeated or out of order, and the cursor goes back at none of them. -/
theorem consume_gapless {position : Int} (h : subject.HasPlace position)
    (operations : List (Consuming τ)) (memory : τ) :
    (∀ earlier, earlier <+: operations →
      (consume subject earlier ⟨position, memory⟩).2.position ≤
        (consume subject operations ⟨position, memory⟩).2.position) ∧
    Gapless subject ⟨position, memory⟩ (consume subject operations ⟨position, memory⟩).1
      (consume subject operations ⟨position, memory⟩).2 := by
  obtain ⟨elements, place, k, hk, spread, rfl⟩ := Subject.exists_spread h
  obtain ⟨count, htakes⟩ := exists_takes_consume spread hk operations memory
  exact ⟨fun earlier hfront => le_consume spread hk hfront memory,
    gapless_of_takes spread.layout hk htakes⟩

/-- A match, an element, a run whose test fails at the digit, a comparison that does not hold, and as
many elements as are left. -/
def mixed : List (Consuming Unit) := [
  .readMatch (PatternText.engine ⟨"a*", .text, none⟩) (PatternText.showsWhole _),
  .pop,
  .readWhile fun value => if value.isTextIn (· == "1") then throw .raised else return true,
  .readPrefix [.text "1", .text "2"],
  .read 2]

/-- Operations of several kinds on `xaabc1d`, from behind its first character, leave no gap and
never step back. -/
theorem consume_gapless_mixed :
    (Subject.ofText "xaabc1d").HasPlace 1 ∧
      (∀ earlier, earlier <+: mixed →
        (consume (Subject.ofText "xaabc1d") earlier ⟨1, ()⟩).2.position ≤
          (consume (Subject.ofText "xaabc1d") mixed ⟨1, ()⟩).2.position) ∧
      Gapless (Subject.ofText "xaabc1d") ⟨1, ()⟩
        (consume (Subject.ofText "xaabc1d") mixed ⟨1, ()⟩).1
        (consume (Subject.ofText "xaabc1d") mixed ⟨1, ()⟩).2 := by
  have hplace : (Subject.ofText "xaabc1d").HasPlace 1 := ⟨by decide, by decide⟩
  exact ⟨hplace, consume_gapless hplace mixed ()⟩

end Session

end Scanning
