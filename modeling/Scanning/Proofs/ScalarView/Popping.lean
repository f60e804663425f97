import Scanning.Subject
import Scanning.Move.Progress
import Scanning.Proofs.ScalarView.Scalar

namespace Scanning

open IndexSpace Utf8

variable {σ τ ε : Type}

namespace Move

variable [IndexSpace σ ε]

/-- The elements that are popped up to the end or a failure, that failure, and where the cursor
stands then. -/
def popAll (subject : σ) (standing : Standing τ) : List ε × Option Fault × Standing τ :=
  match _ : pop subject standing with
  | .error fault standing' => ([], some fault, standing')
  | .ok none standing' => ([], none, standing')
  | .ok (some element) standing' =>
    let (elements, ending) := popAll subject standing'
    (element :: elements, ending)
termination_by ((endIndex subject : Int) - standing.position).toNat
decreasing_by exact (stepsPast_pop ‹_›).leadsPast.room_lt

/-- What comes out is told by the next pop. -/
theorem popAll_eq (subject : σ) (standing : Standing τ) :
    popAll subject standing =
      match pop subject standing with
      | .error fault standing' => ([], some fault, standing')
      | .ok none standing' => ([], none, standing')
      | .ok (some element) standing' =>
        let (elements, ending) := popAll subject standing'
        (element :: elements, ending) := by
  rw [popAll]
  split <;> rename_i hpop <;> rw [hpop]

end Move

namespace Subject

variable {data rest : List UInt8} {chars : List Char} {c : Char} {k : Nat} {memory : τ}

theorem not_end (hk : k < data.length) : ¬ (k : Int) = endIndex (ofUtf8 data) := by
  have hsize : endIndex (ofUtf8 data) = data.length := rfl
  omega

theorem pop_end :
    Move.pop (ofUtf8 data) ⟨data.length, memory⟩ = .ok none ⟨data.length, memory⟩ := by
  have hend : (data.length : Int) = endIndex (ofUtf8 data) := rfl
  simp only [Move.pop, Move.consume, takeAt, if_pos hend, bind, Except.bind, pure, Except.pure]

/-- Where the bytes of a character are next it is taken and its bytes are left behind. -/
theorem pop_eq (h : data.drop k = String.utf8EncodeChar c ++ rest) :
    Move.pop (ofUtf8 data) ⟨k, memory⟩ =
      .ok (some (Value.ofChar c)) ⟨(k + (String.utf8EncodeChar c).length : Nat), memory⟩ := by
  have hin := not_end (ScalarView.lt_length_of_character h)
  have helement : IndexSpace.elementAt (ofUtf8 data) k = .ok (Value.ofChar c) :=
    congrArg (Functor.map fun chars => Value.text (String.ofList chars)) (ScalarView.textAt_eq h)
  have hafter : after (ofUtf8 data) k = .ok (k + (String.utf8EncodeChar c).length : Nat) :=
    ScalarView.after_eq h
  simp only [Move.pop, Move.consume, takeAt, if_neg hin, helement, hafter, bind, Except.bind, pure,
    Except.pure]

/-- Where no character is, the cursor stays. -/
theorem pop_malformed (memory : τ) (hk : k < data.length)
    (hnone : ∀ c : Char, ¬ String.utf8EncodeChar c <+: data.drop k) :
    ∃ stretch, Move.pop (ofUtf8 data) ⟨k, memory⟩ = .error (.malformed stretch) ⟨k, memory⟩ := by
  have hin := not_end hk
  obtain ⟨stretch, htext⟩ := ScalarView.textAt_malformed hk hnone
  have helement : IndexSpace.elementAt (ofUtf8 data) k = .error (.malformed stretch) :=
    congrArg (Functor.map fun chars => Value.text (String.ofList chars)) htext
  refine ⟨stretch, ?_⟩
  simp only [Move.pop, Move.consume, takeAt, if_neg hin, helement, bind, Except.bind]

/-- How popping ends with this rest. -/
inductive Ending : List UInt8 → Option Fault → Prop
  | whole : Ending [] none
  | malformed (stretch : Malformed) {rest : List UInt8} (hrest : rest ≠ []) :
    Ending rest (some (.malformed stretch))

/-- A run pops the characters at the front of what lies before it. -/
theorem popAll_front (memory : τ) (hk : k ≤ data.length)
    (h : code.Front (data.drop k) chars rest) :
    ∃ ending, Move.popAll (ofUtf8 data) ⟨k, memory⟩ =
        (chars.map Value.ofChar, ending, ⟨(k + (encode chars).length : Nat), memory⟩) ∧
      Ending rest ending := by
  induction chars generalizing k with
  | nil =>
    obtain ⟨htext, hstops⟩ := h
    have hrest : data.drop k = rest := htext
    subst hrest
    by_cases hend : k = data.length
    · subst hend
      refine ⟨none, ?_, ?_⟩
      · rw [Move.popAll_eq, pop_end]
        rfl
      · rw [List.drop_length]
        exact .whole
    · obtain ⟨stretch, hpop⟩ := pop_malformed memory (by omega) hstops
      refine ⟨_, ?_, .malformed stretch ?_⟩
      · rw [Move.popAll_eq, hpop]
        rfl
      · rw [Ne, List.drop_eq_nil_iff]
        omega
  | cons c others ih =>
    have htext : data.drop k = String.utf8EncodeChar c ++ (encode others ++ rest) :=
      h.text_eq.trans (List.append_assoc _ _ _)
    have hroom := add_length_le_of_drop_eq hk htext
    obtain ⟨ending, hpopped, hending⟩ := ih hroom ⟨drop_add_of_drop_eq htext, h.stops⟩
    refine ⟨ending, ?_, hending⟩
    rw [Move.popAll_eq, pop_eq htext]
    simp only [hpopped]
    rw [encode_cons, List.length_append, ← Nat.add_assoc]
    rfl

/-- All elements at once are the characters, if the bytes are theirs. -/
theorem elements_eq (h : decode data = .ok chars) :
    (ofUtf8 data).elements = .ok (chars.map Value.ofChar) := by
  have hall : (data.take data.length).drop 0 = encode chars := by
    rw [decode_eq_ok_iff.1 h, List.take_length, List.drop_zero]
  have hslice : (ScalarView.ofBytes data).slice (0 : Nat) (data.length : Nat) = .ok chars :=
    ScalarView.slice_eq hall
  exact congrArg (Functor.map (List.map Value.ofChar)) hslice

/-- The characters of the longest well-formed part at the front of the bytes are popped, each as an
element of its own. If that is all of them the cursor ends at the end, and they are the elements;
otherwise the next one is refused, and the cursor stays behind that part. -/
theorem popAll_ofUtf8 (data : List UInt8) (memory : τ) :
    ∃ (chars : List Char) (stop : Nat), stop ≤ data.length ∧
      decode (data.take stop) = .ok chars ∧
      (∀ longer ≤ data.length, WellFormed (data.take longer) → longer ≤ stop) ∧
      (stop = data.length ∧
          Move.popAll (ofUtf8 data) ⟨0, memory⟩ =
            (chars.map Value.ofChar, none, ⟨data.length, memory⟩) ∧
          (ofUtf8 data).elements = .ok (chars.map Value.ofChar) ∨
        stop < data.length ∧ ∃ stretch,
          Move.popAll (ofUtf8 data) ⟨0, memory⟩ =
            (chars.map Value.ofChar, some (.malformed stretch), ⟨stop, memory⟩)) := by
  obtain ⟨chars, rest, hfront⟩ := code.exists_front data
  obtain ⟨ending, hpopped, hending⟩ := popAll_front memory (Nat.zero_le data.length) hfront
  rw [Nat.zero_add] at hpopped
  refine ⟨chars, (encode chars).length, hfront.stop_le,
    decode_eq_ok_iff.2 hfront.take_eq.symm, ?_, ?_⟩
  · intro longer hle hwellFormed
    exact hfront.longest hle (wellFormed_iff.1 hwellFormed)
  · cases hending with
    | whole =>
      have htext : data = encode chars := hfront.text_eq.trans (List.append_nil _)
      have hlength : (encode chars).length = data.length := congrArg List.length htext.symm
      rw [hlength] at hpopped ⊢
      exact .inl ⟨rfl, hpopped, elements_eq (decode_eq_ok_iff.2 htext.symm)⟩
    | malformed stretch hrest => exact .inr ⟨hfront.stop_lt hrest, stretch, hpopped⟩

end Subject

end Scanning
