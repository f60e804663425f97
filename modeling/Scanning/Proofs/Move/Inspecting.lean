import Scanning.Proofs.Move.Bounds
import Scanning.Proofs.Move.Failure
import Scanning.Session.Inspecting

namespace Scanning

open IndexSpace

variable {σ τ ε α : Type}

/-- What a test was given, and what it said. -/
structure Inquiry (σ ε : Type) where
  element : ε
  copy : Cursor σ
  verdict : Except Fault Bool

/-- The test that also keeps a record of what it is given and of what it says. -/
def Inspection.recorded (test : Inspection σ τ ε) :
    Inspection σ (τ × List (Inquiry σ ε)) ε := fun element copy (memory, record) =>
  match test element copy memory with
  | .ok accepted memory => .ok accepted (memory, record ++ [⟨element, copy, .ok accepted⟩])
  | .error fault memory => .error fault (memory, record ++ [⟨element, copy, .error fault⟩])

namespace Move

/-- An outcome, and the state that is left. -/
def leaving : Except Fault α → τ → EStateM.Result Fault τ α
  | .ok answer, state => .ok answer state
  | .error fault, state => .error fault state

/-- To keep a record changes neither the verdict nor what the test remembers. -/
theorem recorded_eq {test : Inspection σ τ ε} {element : ε} {copy : Cursor σ}
    {verdict : Except Fault Bool} {memory last : τ} (record : List (Inquiry σ ε))
    (h : test element copy memory = leaving verdict last) :
    test.recorded element copy (memory, record) =
      leaving verdict (last, record ++ [⟨element, copy, verdict⟩]) := by
  simp only [Inspection.recorded, h]
  cases verdict <;> rfl

/-- Asked these questions in turn, a test says what stands there. What it remembers is carried from
each question to the next, up to the last memory. -/
def Answers (test : Int → Test τ ε) : τ → List (Inquiry σ ε) → τ → Prop
  | memory, [], last => memory = last
  | memory, inquiry :: rest, last =>
    ∃ next, test inquiry.copy.position inquiry.element memory = leaving inquiry.verdict next ∧
      Answers test next rest last

variable [IndexSpace σ ε]

/-- A run from an index on asks these questions, with this outcome, and ends at an index. Each
question is about the element at the index of the run and comes with a copy of the cursor there; the
run goes on to the next element as long as the verdict is to accept. -/
inductive Inspects (subject : σ) :
    Int → List (Inquiry σ ε) → Except Fault Unit → Int → Prop where
  | atEnd {index : Int} (hend : index = endIndex subject) :
      Inspects subject index [] (.ok ()) index
  | unreadable {index : Int} {fault : Fault} (hend : index ≠ endIndex subject)
      (helement : elementAt subject index = .error fault) :
      Inspects subject index [] (.error fault) index
  | rejected {index : Int} {element : ε} (hend : index ≠ endIndex subject)
      (helement : elementAt subject index = .ok element) :
      Inspects subject index [⟨element, ⟨subject, index⟩, .ok false⟩] (.ok ()) index
  | raised {index : Int} {element : ε} {fault : Fault} (hend : index ≠ endIndex subject)
      (helement : elementAt subject index = .ok element) :
      Inspects subject index [⟨element, ⟨subject, index⟩, .error fault⟩] (.error fault) index
  | stuck {index : Int} {element : ε} {fault : Fault} (hend : index ≠ endIndex subject)
      (helement : elementAt subject index = .ok element)
      (hafter : after subject index = .error fault) :
      Inspects subject index [⟨element, ⟨subject, index⟩, .ok true⟩] (.error fault) index
  | next {index next stop : Int} {element : ε} {rest : List (Inquiry σ ε)}
      {outcome : Except Fault Unit} (hend : index ≠ endIndex subject)
      (helement : elementAt subject index = .ok element)
      (hafter : after subject index = .ok next) (hrest : Inspects subject next rest outcome stop) :
      Inspects subject index (⟨element, ⟨subject, index⟩, .ok true⟩ :: rest) outcome stop

variable {subject : σ} {index stop : Int} {memory last : τ} {inquiries : List (Inquiry σ ε)}
  {outcome : Except Fault Unit}

/-- At an index within the subject the copy can be made, and it stands there. -/
theorem withCopy_of_within (test : Inspection σ τ ε) (hindex : Within subject index) (element : ε)
    (memory : τ) :
    withCopy subject test index element memory = test element ⟨subject, index⟩ memory := by
  have hcopy : Cursor.at? subject index = .ok ⟨subject, index⟩ := if_pos hindex
  simp only [withCopy, hcopy]

/-- The questions are asked in the order of the indices, each of them at an index from the start of
the run on. -/
theorem Inspects.le_position (h : Inspects subject index inquiries outcome stop) :
    ∀ inquiry ∈ inquiries, index ≤ inquiry.copy.position := by
  induction h with
  | atEnd | unreadable => simp
  | rejected | raised | stuck => simp
  | next hend helement hafter hrest ih =>
    have hlt := lt_after hafter
    intro inquiry hmem
    obtain rfl | hmem := List.mem_cons.1 hmem
    · exact Int.le_refl _
    · have hle := ih inquiry hmem
      omega

/-- The copies that a run hands out stand further and further on. -/
theorem Inspects.pairwise_position (h : Inspects subject index inquiries outcome stop) :
    (inquiries.map (·.copy.position)).Pairwise (· < ·) := by
  induction h with
  | atEnd | unreadable => simp
  | rejected | raised | stuck => simp
  | next hend helement hafter hrest ih =>
    refine List.pairwise_cons.2 ⟨fun position hmem => ?_, ih⟩
    obtain ⟨inquiry, hinquiry, rfl⟩ := List.mem_map.1 hmem
    exact Int.lt_of_lt_of_le (lt_after hafter) (hrest.le_position inquiry hinquiry)

/-- A test that fails ends the run, at the element that it was asked about. -/
theorem Inspects.eq_of_raised (h : Inspects subject index inquiries outcome stop) :
    ∀ inquiry ∈ inquiries, ∀ fault, inquiry.verdict = .error fault →
      outcome = .error fault ∧ stop = inquiry.copy.position := by
  induction h with
  | atEnd | unreadable => simp
  | rejected | raised | stuck => simp
  | next hend helement hafter hrest ih =>
    intro inquiry hmem fault hverdict
    obtain rfl | hmem := List.mem_cons.1 hmem
    · cases hverdict
    · exact ih inquiry hmem fault hverdict

/-- Every copy is one of the cursor, and within the subject. -/
theorem Inspects.copy_within (h : Inspects subject index inquiries outcome stop)
    (hindex : Within subject index) :
    ∀ inquiry ∈ inquiries,
      inquiry.copy.subject = subject ∧ Within subject inquiry.copy.position := by
  induction h with
  | atEnd | unreadable => simp
  | rejected | raised | stuck => simp [hindex]
  | next hend helement hafter hrest ih =>
    intro inquiry hmem
    obtain rfl | hmem := List.mem_cons.1 hmem
    · exact ⟨rfl, hindex⟩
    · exact ih (hindex.after hafter) inquiry hmem

/-- A run that asks these questions goes as the answers say, whoever gives them. -/
theorem Inspects.runFrom_eq {test : Int → Test τ ε}
    (h : Inspects subject index inquiries outcome stop)
    (hanswers : Answers test memory inquiries last) :
    runFrom subject test ⟨index, memory⟩ = leaving outcome ⟨stop, last⟩ := by
  induction h generalizing memory with
  | atEnd hend =>
    cases hanswers
    rw [runFrom, if_pos hend]
    rfl
  | unreadable hend helement =>
    cases hanswers
    exact (FailsAt.element hend helement).runFrom_eq
  | rejected hend helement =>
    obtain ⟨_, htest, rfl⟩ := hanswers
    simp only [leaving] at htest
    rw [runFrom, if_neg hend]
    simp only [helement, htest]
    rfl
  | raised hend helement =>
    obtain ⟨_, htest, rfl⟩ := hanswers
    exact (FailsAt.test hend helement htest).runFrom_eq
  | stuck hend helement hafter =>
    obtain ⟨_, htest, rfl⟩ := hanswers
    exact (FailsAt.step hend helement htest hafter).runFrom_eq
  | next hend helement hafter hrest ih =>
    obtain ⟨_, htest, hanswers⟩ := hanswers
    rw [(Accepts.next hend helement htest hafter (.here _)).runFrom_eq]
    exact ih hanswers

/-- Every run asks such questions. -/
theorem exists_inspects (subject : σ) (test : Int → Test τ ε) (standing : Standing τ) :
    ∃ inquiries outcome stop last, Inspects subject standing.position inquiries outcome stop ∧
      Answers test standing.memory inquiries last := by
  fun_induction runFrom subject test standing with
  | case1 standing hend => exact ⟨[], _, _, _, .atEnd hend, rfl⟩
  | case2 standing hend fault helement => exact ⟨[], _, _, _, .unreadable hend helement, rfl⟩
  | case3 standing hend element helement fault memory htest =>
    exact ⟨_, _, _, memory, .raised hend helement, memory, htest, rfl⟩
  | case4 standing hend element helement memory htest =>
    exact ⟨_, _, _, memory, .rejected hend helement, memory, htest, rfl⟩
  | case5 standing hend element helement memory htest fault hafter =>
    exact ⟨_, _, _, memory, .stuck hend helement hafter, memory, htest, rfl⟩
  | case6 standing hend element helement memory htest next hafter ih =>
    obtain ⟨rest, outcome, stop, last, hrest, hanswers⟩ := ih
    exact ⟨_, _, _, last, .next hend helement hafter hrest, memory, htest, hanswers⟩

/-- A test that keeps a record says the same, and has then recorded the questions. -/
theorem Answers.recorded {test : Inspection σ τ ε} (record : List (Inquiry σ ε))
    (hcopies : ∀ inquiry ∈ inquiries,
      inquiry.copy.subject = subject ∧ Within subject inquiry.copy.position)
    (hanswers : Answers (withCopy subject test) memory inquiries last) :
    Answers (withCopy subject test.recorded) (memory, record) inquiries
      (last, record ++ inquiries) := by
  -- Each answer lengthens the record that the next one finds, so the induction is for all records.
  induction inquiries generalizing memory record with
  | nil =>
    cases hanswers
    simp [Answers]
  | cons inquiry rest ih =>
    obtain ⟨⟨hsubject, hposition⟩, hrest⟩ := List.forall_mem_cons.1 hcopies
    obtain ⟨next, htest, hanswers⟩ := hanswers
    subst hsubject
    rw [withCopy_of_within test hposition] at htest
    refine ⟨(next, record ++ [inquiry]), ?_, ?_⟩
    · rw [withCopy_of_within _ hposition]
      exact recorded_eq record htest
    · have hlast := ih (record ++ [inquiry]) hrest hanswers
      rwa [List.append_assoc] at hlast

/-- Whatever a test does with the copies that it is given, a run asks it about one element after the
other, from the current one on, each time with a copy that stands there; no place is asked about
twice. A test that fails leaves the cursor at the element in question, and a plain test that gives
the same verdicts leads to the same place. -/
theorem advanceInspecting_inspects (test : Inspection σ τ ε) (subject : σ) (standing : Standing τ)
    (hstart : Within subject standing.position) :
    ∃ inquiries outcome stop, ∃ last : τ,
      advanceInspecting test subject standing = leaving outcome ⟨stop, last⟩ ∧
      advanceInspecting test.recorded subject ⟨standing.position, standing.memory, []⟩ =
        leaving outcome ⟨stop, last, inquiries⟩ ∧
      Inspects subject standing.position inquiries outcome stop ∧
      (inquiries.map (·.copy.position)).Pairwise (· < ·) ∧
      (∀ inquiry ∈ inquiries, ∀ fault, inquiry.verdict = .error fault →
        outcome = .error fault ∧ stop = inquiry.copy.position) ∧
      ∀ {ω : Type} (plain : Test ω ε) (before after : ω),
        Answers (fun _ => plain) before inquiries after →
        advanceWhile plain subject ⟨standing.position, before⟩ = leaving outcome ⟨stop, after⟩ := by
  obtain ⟨inquiries, outcome, stop, last, hinspects, hanswers⟩ :=
    exists_inspects subject (withCopy subject test) standing
  have hrecorded := hanswers.recorded [] (hinspects.copy_within hstart)
  exact ⟨inquiries, outcome, stop, last, hinspects.runFrom_eq hanswers,
    hinspects.runFrom_eq hrecorded, hinspects, hinspects.pairwise_position, hinspects.eq_of_raised,
    fun plain before after hplain => hinspects.runFrom_eq hplain⟩

/-- The copies are moved two elements on, which the second of two elements does not allow. -/
theorem advanceInspecting_inspects_beyondEnd :
    Within (Subject.ofText "ab") 0 ∧
    ∃ inquiries,
      Inspects (Subject.ofText "ab") 0 inquiries (.error (.outOfBounds (.pastEither 2 1 2))) 1 ∧
      (inquiries.map (·.copy.position)).Pairwise (· < ·) := by
  have hstart : Within (Subject.ofText "ab") 0 := ⟨by decide, by decide⟩
  let glance : Session.Glance := .move 2 (.text "c")
  have hrun : advanceInspecting glance.test (Subject.ofText "ab") ⟨0, ({} : Session.Memory)⟩ =
      leaving (.error (.outOfBounds (.pastEither 2 1 2))) ⟨1, { seen := [0, 1] }⟩ :=
    Inspects.runFrom_eq (.next (by decide) rfl rfl (.raised (by decide) rfl)) ⟨_, rfl, _, rfl, rfl⟩
  obtain ⟨inquiries, outcome, stop, last, hends, -, hinspects, hpositions, -⟩ :=
    advanceInspecting_inspects glance.test (Subject.ofText "ab") ⟨0, {}⟩ hstart
  rw [hrun] at hends
  cases outcome with
  | ok => cases hends
  | error fault =>
    cases hends
    exact ⟨hstart, inquiries, hinspects, hpositions⟩

end Move

end Scanning
