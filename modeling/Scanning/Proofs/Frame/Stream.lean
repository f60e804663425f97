import Scanning.Proofs.Frame.Reading

namespace Scanning.Frame

open Scanning.Span (ofList)

variable {τ : Type} {data rest : List UInt8} {content : Content} {contents : List Content}
  {k given : Nat} {memory : τ}

theorem framesFrom_end :
    framesFrom none given (ofList data) ⟨data.length, memory⟩ = ([], none) := by
  rw [framesFrom]
  exact if_pos rfl

/-- A stream that is neither at its end nor at its limit goes on with a frame. -/
theorem framesFrom_going {limit : Option Int} {span : Span UInt8} {standing : Standing τ}
    (hin : ¬ standing.position = span.items.size) (hlimit : ¬ limit.any (· ≤ (given : Int)) = true) :
    framesFrom limit given span standing =
      match readFrame span standing with
      | .error fault _ => ([], some fault)
      | .ok frame standing =>
        let (frames, ending) := framesFrom limit (given + 1) span standing
        (frame :: frames, ending) := by
  rw [framesFrom, if_neg hin, if_neg hlimit]
  split <;> rename_i hframe <;> rw [hframe]

/-- Without a limit, and not at the end, the reading goes on with a frame or fails as that frame
does. -/
theorem framesFrom_next (hk : k < data.length) :
    framesFrom none given (ofList data) ⟨k, memory⟩ =
      match readFrame (ofList data) ⟨k, memory⟩ with
      | .error fault _ => ([], some fault)
      | .ok frame standing =>
        let (frames, ending) := framesFrom none (given + 1) (ofList data) standing
        (frame :: frames, ending) := by
  apply framesFrom_going
  · change ¬ (k : Int) = data.length
    omega
  · exact Bool.false_ne_true

/-- Where the bytes of a frame are next, that frame is given first, whatever comes behind it. -/
theorem framesFrom_eq (h : data.drop k = content.bytes ++ rest) :
    framesFrom none given (ofList data) ⟨k, memory⟩ =
      let (frames, ending) := framesFrom none (given + 1) (ofList data)
        ⟨(k + content.bytes.length : Nat), memory⟩
      (⟨content.tag.toNat, k, content.payload⟩ :: frames, ending) := by
  rw [framesFrom_next (lt_length_of_drop_eq h), readFrame_eq h]

/-- What a stream that goes on with no frame ends with. -/
theorem framesFrom_short (given : Nat) (memory : τ) (hk : k < data.length)
    (hnone : ∀ content : Content, ¬ content.bytes <+: data.drop k) :
    ∃ need left : Int, framesFrom none given (ofList data) ⟨k, memory⟩ =
      ([], some (.parse ⟨.frames, .truncatedFrame need left, some k⟩)) := by
  obtain ⟨need, left, standing, hshort⟩ := readFrame_short memory hk hnone
  refine ⟨need, left, ?_⟩
  rw [framesFrom_next hk, hshort]

/-- The frames of these contents, the first of which begins at `start`. -/
def laidOut (start : Nat) : List Content → List Frame
  | [] => []
  | content :: others =>
    let frame : Frame := ⟨content.tag.toNat, start, content.payload⟩
    frame :: laidOut (start + frame.size) others

/-- How reading ends at `stop` with this rest. -/
inductive Ending (stop : Nat) : List UInt8 → Option Fault → Prop
  | whole : Ending stop [] none
  | cutOff (need left : Int) {rest : List UInt8} (hrest : rest ≠ []) :
    Ending stop rest (some (.parse ⟨.frames, .truncatedFrame need left, some stop⟩))

/-- A run reads the front of what lies before it. -/
theorem framesFrom_front (given : Nat) (memory : τ) (hk : k ≤ data.length)
    (h : Content.code.Front (data.drop k) contents rest) :
    ∃ ending, framesFrom none given (ofList data) ⟨k, memory⟩ = (laidOut k contents, ending) ∧
      Ending (k + (Content.code.encode contents).length) rest ending := by
  induction contents generalizing k given with
  | nil =>
    obtain ⟨htext, hstops⟩ := h
    have hrest : data.drop k = rest := htext
    subst hrest
    by_cases hend : k = data.length
    · subst hend
      refine ⟨none, framesFrom_end, ?_⟩
      rw [List.drop_length]
      exact .whole
    · obtain ⟨need, left, hshort⟩ := framesFrom_short given memory (by omega) hstops
      refine ⟨_, hshort, .cutOff need left ?_⟩
      rw [Ne, List.drop_eq_nil_iff]
      omega
  | cons content others ih =>
    have htext : data.drop k = content.bytes ++ (Content.code.encode others ++ rest) :=
      h.text_eq.trans (List.append_assoc _ _ _)
    have hroom := add_length_le_of_drop_eq hk htext
    obtain ⟨ending, hframes, hending⟩ := ih (given + 1) hroom
      ⟨drop_add_of_drop_eq htext, h.stops⟩
    refine ⟨ending, ?_, ?_⟩
    · rw [framesFrom_eq htext, hframes, content.length_bytes]
      rfl
    · rw [PrefixCode.encode_cons, List.length_append, ← Nat.add_assoc]
      exact hending

/-- The tag and the payload of a frame. -/
def toPair (frame : Frame) : Int × List UInt8 := (frame.tag, frame.payload)

/-- The frames are the data: their bytes, one frame after the other, each at its offset. -/
structure Fills (frames : List Frame) (data : List UInt8) : Prop where
  encodeAll_eq : encodeAll (frames.map toPair) = .ok data
  offset_eq (i : Nat) (hi : i < frames.length) :
    frames[i].offset = ((frames.take i).map size).sum

/-- The data are frames, one after the other. -/
def IsStream (data : List UInt8) : Prop :=
  ∃ pairs : List (Int × List UInt8), encodeAll pairs = .ok data

/-- Data are frames in a row exactly if they are a text in the code of frames. -/
theorem isStream_iff : IsStream data ↔ ∃ contents, Content.code.encode contents = data := by
  constructor
  · rintro ⟨pairs, hpairs⟩
    obtain ⟨contents, -, hdata⟩ := encodeAll_eq_ok_iff.1 hpairs
    exact ⟨contents, hdata⟩
  · rintro ⟨contents, hdata⟩
    exact ⟨_, encodeAll_eq_ok_iff.2 ⟨contents, rfl, hdata⟩⟩

theorem map_toPair_laidOut (start : Nat) (contents : List Content) :
    (laidOut start contents).map toPair = contents.map Content.toPair := by
  induction contents generalizing start with
  | nil => rfl
  | cons content others ih => exact congrArg (content.toPair :: ·) (ih _)

theorem offset_laidOut (start : Nat) (contents : List Content) (i : Nat)
    (hi : i < (laidOut start contents).length) :
    (laidOut start contents)[i].offset =
      start + (((laidOut start contents).take i).map size).sum := by
  induction contents generalizing start i with
  | nil => exact absurd hi (Nat.not_lt_zero i)
  | cons content others ih =>
    cases i with
    | zero => rfl
    | succ i => exact (ih _ i (Nat.lt_of_succ_lt_succ hi)).trans (Nat.add_assoc _ _ _)

/-- Frames that are laid out from the start fill the bytes of their contents. -/
theorem fills_laidOut (contents : List Content) :
    Fills (laidOut 0 contents) (Content.code.encode contents) where
  encodeAll_eq := by
    rw [map_toPair_laidOut]
    exact encodeAll_eq_ok_iff.2 ⟨contents, rfl, rfl⟩
  offset_eq i hi := by
    rw [offset_laidOut, Nat.zero_add]

/-- A stream is its front, and ends as the front does. -/
theorem stream_front (h : Content.code.Front data contents rest) :
    ∃ ending, stream none data.toArray = (laidOut 0 contents, ending) ∧
      Ending (Content.code.encode contents).length rest ending := by
  obtain ⟨ending, hframes, hending⟩ := framesFrom_front 0 () (Nat.zero_le data.length) h
  rw [Nat.zero_add] at hending
  exact ⟨ending, hframes, hending⟩

/-- The frames of any contents in a row are read as laid out. -/
theorem readAll_encode (contents : List Content) :
    readAll (Content.code.encode contents).toArray = .ok (laidOut 0 contents) := by
  obtain ⟨ending, hframes, hending⟩ := stream_front (Content.code.front_encode contents)
  cases hending with
  | whole => rw [readAll, hframes]
  | cutOff need left hrest => exact absurd rfl hrest

/-- Tags and payloads that fit are the contents of frames. -/
theorem exists_contents {pairs : List (Int × List UInt8)}
    (hfits : ∀ pair ∈ pairs, 0 ≤ pair.1 ∧ pair.1 ≤ 255 ∧ pair.2.length < 2 ^ 32) :
    ∃ contents : List Content, contents.map Content.toPair = pairs := by
  induction pairs with
  | nil => exact ⟨[], rfl⟩
  | cons pair others ih =>
    obtain ⟨hpair, hothers⟩ := List.forall_mem_cons.1 hfits
    obtain ⟨contents, rfl⟩ := ih hothers
    obtain ⟨hlow, hhigh, hlength⟩ := hpair
    obtain ⟨content, hcontent⟩ := exists_content hlow (by omega) (by omega)
    exact ⟨content :: contents, congrArg (· :: _) hcontent⟩

/-- Tags and payloads that fit can be encoded, and reading gives them back in order, each frame at
the offset behind the frames before it. -/
theorem readAll_encodeAll (pairs : List (Int × List UInt8))
    (hfits : ∀ pair ∈ pairs, 0 ≤ pair.1 ∧ pair.1 ≤ 255 ∧ pair.2.length < 2 ^ 32) :
    ∃ data frames, encodeAll pairs = .ok data ∧ readAll data.toArray = .ok frames ∧
      frames.map toPair = pairs ∧
      ∀ (i : Nat) (hi : i < frames.length),
        frames[i].offset = ((pairs.take i).map fun pair => 5 + pair.2.length).sum := by
  obtain ⟨contents, rfl⟩ := exists_contents hfits
  refine ⟨_, _, encodeAll_eq_ok_iff.2 ⟨contents, rfl, rfl⟩, readAll_encode contents,
    map_toPair_laidOut 0 contents, ?_⟩
  intro i hi
  rw [(fills_laidOut contents).offset_eq i hi, ← map_toPair_laidOut 0, ← List.map_take,
    List.map_map]
  rfl

/-- The empty payload of the first frame, a payload that looks like a header, and the greatest tag
come back as they are. -/
theorem readAll_encodeAll_three :
    ∃ data frames,
      encodeAll [(0, []), (7, [1, 0, 0, 0, 2]), (255, [9])] = .ok data ∧
      readAll data.toArray = .ok frames ∧
      frames.map toPair = [(0, []), (7, [1, 0, 0, 0, 2]), (255, [9])] ∧
      ∀ (i : Nat) (hi : i < frames.length),
        frames[i].offset =
          (([((0 : Int), ([] : List UInt8)), (7, [1, 0, 0, 0, 2]), (255, [9])].take i).map
            fun pair => 5 + pair.2.length).sum :=
  readAll_encodeAll [(0, []), (7, [1, 0, 0, 0, 2]), (255, [9])] (by decide)

/-- Data that are frames are read as such. Of other data the longest front that is frames is read,
and its end is where the failure is reported. -/
theorem readAll_whole_or_truncated (data : List UInt8) :
    (IsStream data ∧ ∃ frames, readAll data.toArray = .ok frames ∧ Fills frames data) ∨
    (¬ IsStream data ∧ ∃ (frames : List Frame) (stop : Nat) (need left : Int),
      readAll data.toArray =
        .error (.parse ⟨.frames, .truncatedFrame need left, some stop⟩) ∧
      stream none data.toArray =
        (frames, some (.parse ⟨.frames, .truncatedFrame need left, some stop⟩)) ∧
      stop ≤ data.length ∧ Fills frames (data.take stop) ∧
      ∀ longer ≤ data.length, IsStream (data.take longer) → longer ≤ stop) := by
  obtain ⟨contents, rest, hfront⟩ := Content.code.exists_front data
  obtain ⟨ending, hframes, hending⟩ := stream_front hfront
  have hfills := fills_laidOut contents
  cases hending with
  | whole =>
    have htext : data = Content.code.encode contents :=
      hfront.text_eq.trans (List.append_nil _)
    refine .inl ⟨isStream_iff.2 ⟨contents, htext.symm⟩, laidOut 0 contents, ?_, ?_⟩
    · rw [readAll, hframes]
    · rw [htext]
      exact hfills
  | cutOff need left hrest =>
    have hnone : ¬ IsStream data := by
      rw [isStream_iff, ← hfront.rest_eq_nil_iff]
      exact hrest
    refine .inr ⟨hnone, laidOut 0 contents, _, need, left, ?_, hframes, hfront.stop_le, ?_, ?_⟩
    · rw [readAll, hframes]
    · rw [hfront.take_eq]
      exact hfills
    · intro longer hle hlonger
      exact hfront.longest hle (isStream_iff.1 hlonger)

end Scanning.Frame
