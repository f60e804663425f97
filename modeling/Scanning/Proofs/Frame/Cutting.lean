import Scanning.Proofs.Frame.Stream

namespace Scanning

namespace Frame

open Scanning.Span (ofList)

variable {τ : Type} {data : List UInt8} {content : Content} {contents first others : List Content}
  {start k : Nat} {frame : Frame}

/-- Where a frame ends. -/
def stop (frame : Frame) : Nat := frame.offset + frame.size

/-- Where the last of some frames ends, which is the start of the stream if there is none. -/
def lastStop (frames : List Frame) : Nat := (frames.getLast?.map stop).getD 0

/-- A frame is as long as its header and its payload, and those behind it follow at once. -/
theorem length_encode_cons (content : Content) (others : List Content) :
    (Content.code.encode (content :: others)).length =
      headerSize + content.payload.length + (Content.code.encode others).length := by
  rw [PrefixCode.encode_cons, List.length_append]
  exact congrArg (· + _) content.length_bytes

theorem laidOut_append (start : Nat) (first others : List Content) :
    laidOut start (first ++ others) =
      laidOut start first ++ laidOut (start + (Content.code.encode first).length) others := by
  induction first generalizing start with
  | nil => rfl
  | cons content first ih =>
    rw [length_encode_cons, ← Nat.add_assoc]
    exact congrArg (_ :: ·) (ih _)

theorem stop_le_of_mem_laidOut (h : frame ∈ laidOut start contents) :
    frame.stop ≤ start + (Content.code.encode contents).length := by
  induction contents generalizing start with
  | nil => cases h
  | cons content others ih =>
    rw [length_encode_cons]
    rw [laidOut, List.mem_cons] at h
    obtain rfl | h := h
    · simp only [stop, size]
      omega
    · have hlater := ih h
      simp only [size] at hlater
      omega

theorem le_offset_of_mem_laidOut (h : frame ∈ laidOut start contents) : start ≤ frame.offset := by
  induction contents generalizing start with
  | nil => cases h
  | cons content others ih =>
    rw [laidOut, List.mem_cons] at h
    obtain rfl | h := h
    · exact Nat.le_refl start
    · exact Nat.le_trans (Nat.le_add_right start _) (ih h)

/-- No frame ends in front of the end of the first one. -/
theorem le_stop_of_mem_laidOut (h : frame ∈ laidOut start (content :: others)) :
    start + content.bytes.length ≤ frame.stop := by
  rw [content.length_bytes]
  rw [laidOut, List.mem_cons] at h
  obtain rfl | h := h
  · exact Nat.le_refl _
  · exact Nat.le_trans (le_offset_of_mem_laidOut h) (Nat.le_add_right _ _)

theorem getLast?_laidOut (start : Nat) (contents : List Content) :
    ((laidOut start contents).getLast?.map stop).getD start =
      start + (Content.code.encode contents).length := by
  induction contents generalizing start with
  | nil => rfl
  | cons content others ih =>
    rw [length_encode_cons, ← Nat.add_assoc, laidOut, List.getLast?_cons, Option.map_some,
      Option.getD_some]
    exact (Option.getD_map stop _ _).symm.trans (ih _)

/-- Frames that begin at the start of a stream end at the number of their bytes. -/
theorem lastStop_laidOut (contents : List Content) :
    lastStop (laidOut 0 contents) = (Content.code.encode contents).length :=
  (getLast?_laidOut 0 contents).trans (Nat.zero_add _)

/-- The frames that end up to a cut are those of the contents in front of it. -/
theorem filter_laidOut (hfirst : start + (Content.code.encode first).length ≤ k)
    (hothers : ∀ content more, others = content :: more →
      k < start + (Content.code.encode first).length + content.bytes.length) :
    (laidOut start (first ++ others)).filter (·.stop ≤ k) = laidOut start first := by
  have hkept : ∀ frame ∈ laidOut start first, decide (frame.stop ≤ k) = true := by
    intro frame hframe
    exact decide_eq_true (Nat.le_trans (stop_le_of_mem_laidOut hframe) hfirst)
  have hdropped : ∀ frame ∈ laidOut (start + (Content.code.encode first).length) others,
      ¬ decide (frame.stop ≤ k) = true := by
    intro frame hframe
    cases others with
    | nil => cases hframe
    | cons content more =>
      have hle := le_stop_of_mem_laidOut hframe
      have hlt := hothers content more rfl
      rw [decide_eq_true_eq]
      omega
  rw [laidOut_append, List.filter_append, List.filter_eq_self.2 hkept,
    List.filter_eq_nil_iff.2 hdropped, List.append_nil]

/-- A limit that is met ends the reading, whatever comes next. -/
theorem framesFrom_met {limit : Int} {given : Nat} (hmet : limit ≤ given) (span : Span UInt8)
    (standing : Standing τ) : framesFrom (some limit) given span standing = ([], none) := by
  rw [framesFrom]
  split
  · rfl
  · exact if_pos (decide_eq_true hmet)

/-- What a limit does to a reading of which so many frames were given before. -/
theorem framesFrom_limit (limit : Int) (given : Nat) (span : Span UInt8) (standing : Standing τ) :
    framesFrom (some limit) given span standing =
      if (limit - given).toNat ≤ (framesFrom none given span standing).1.length then
        ((framesFrom none given span standing).1.take (limit - given).toNat, none)
      else framesFrom none given span standing := by
  fun_induction framesFrom none given span standing with
  | case1 given standing hend =>
    rw [framesFrom, if_pos hend, List.take_nil, ite_self]
  | case2 given standing hend hlimit => exact absurd hlimit Bool.false_ne_true
  | case3 given standing hend _ fault standing' hframe =>
    by_cases hmet : limit ≤ given
    · rw [framesFrom_met hmet, if_pos (by omega), List.take_nil]
    · rw [framesFrom_going hend (by simpa using hmet), hframe, if_neg]
      rw [List.length_nil]
      omega
  | case4 given standing hend _ frame standing' hframe frames ending hrest ih =>
    by_cases hmet : limit ≤ given
    · rw [framesFrom_met hmet, show (limit - given).toNat = 0 by omega, List.take_zero,
        if_pos (Nat.zero_le _)]
    · have hone : (limit - given).toNat = (limit - (given + 1 : Nat)).toNat + 1 := by omega
      rw [framesFrom_going hend (by simpa using hmet), hframe, hone]
      dsimp only
      rw [ih, hrest, List.length_cons, List.take_succ_cons]
      dsimp only
      split
      · rw [if_pos (by omega)]
      · rw [if_neg (by omega)]

/-- Reading a stream, with a limit or without, fails only with the failure of a frame that is cut
off. -/
theorem stream_fault {limit : Option Int} {data : List UInt8} {frames : List Frame} {fault : Fault}
    (h : stream limit data.toArray = (frames, some fault)) :
    ∃ (need left : Int) (stop : Nat),
      fault = .parse ⟨.frames, .truncatedFrame need left, some stop⟩ := by
  have hunlimited : (stream none data.toArray).2 = some fault := by
    cases limit with
    | none => rw [h]
    | some limit =>
      rw [stream, framesFrom_limit] at h
      split at h
      · cases h
      · exact congrArg Prod.snd h
  obtain ⟨contents, rest, hfront⟩ := Content.code.exists_front data
  obtain ⟨ending, hframes, hending⟩ := stream_front hfront
  rw [hframes] at hunlimited
  rw [show ending = some fault from hunlimited] at hending
  cases hending with
  | cutOff need left hrest => exact ⟨need, left, _, rfl⟩

/-- Cut off anywhere, a stream gives the frames that end up to there. It ends well if the cut is at
the end of the last of them, and otherwise with the failure of the frame that begins there. A limit
that the stream can meet gives as many frames, whatever lies behind them, and one that it cannot meet
changes nothing. -/
theorem stream_cut_or_limited (data : List UInt8) {k : Nat} (hk : k ≤ data.length) :
    (∃ frames ending, stream none (data.take k).toArray = (frames, ending) ∧
      frames = (stream none data.toArray).1.filter (·.stop ≤ k) ∧
      (k = lastStop frames → ending = none) ∧
      (k ≠ lastStop frames → ∃ need left : Int,
        ending = some (.parse ⟨.frames, .truncatedFrame need left, some (lastStop frames)⟩))) ∧
    ∀ limit : Int, stream (some limit) data.toArray =
      if limit.toNat ≤ (stream none data.toArray).1.length then
        ((stream none data.toArray).1.take limit.toNat, none)
      else stream none data.toArray := by
  constructor
  · -- The frames in front of the cut are a front of what is left of the data as well.
    obtain ⟨contents, rest, hfront⟩ := Content.code.exists_front data
    obtain ⟨first, others, rest', rfl, hcut, hothers⟩ := hfront.cut k
    obtain ⟨_, hframes, -⟩ := stream_front hfront
    obtain ⟨ending, hframes', hending⟩ := stream_front hcut
    have hlength : (data.take k).length = k := by rw [List.length_take, Nat.min_eq_left hk]
    have hle := hcut.stop_le
    rw [hlength] at hle
    refine ⟨laidOut 0 first, ending, hframes', ?_, ?_, ?_⟩
    · rw [hframes]
      refine (filter_laidOut ?_ ?_).symm
      · rwa [Nat.zero_add]
      · intro content more hmore
        rw [Nat.zero_add]
        exact hothers content more hmore
    · intro hwhole
      rw [lastStop_laidOut] at hwhole
      cases hending with
      | whole => rfl
      | cutOff need left hrest =>
        have hlt := hcut.stop_lt hrest
        omega
    · intro hpart
      rw [lastStop_laidOut] at hpart ⊢
      cases hending with
      | whole =>
        have htext := congrArg List.length hcut.text_eq
        rw [hlength, List.append_nil] at htext
        exact absurd htext hpart
      | cutOff need left hrest => exact ⟨need, left, rfl⟩
  · intro limit
    have hlimit := framesFrom_limit limit 0 (ofList data) (⟨0, ()⟩ : Standing Unit)
    rw [show limit - (0 : Nat) = limit by omega] at hlimit
    exact hlimit

/-- Two frames, of which the second carries a byte, and then one that is cut off. -/
def brokenOff : List UInt8 := [1, 0, 0, 0, 0, 2, 0, 0, 0, 1, 9, 7]

/-- The first cut is inside the header of the second frame; the limit keeps the reader from the third
one. -/
theorem stream_cut_or_limited_brokenOff :
    9 ≤ brokenOff.length ∧
      (∃ need left : Int, stream none (brokenOff.take 9).toArray =
        ([⟨1, 0, []⟩], some (.parse ⟨.frames, .truncatedFrame need left, some 5⟩))) ∧
      stream (some 2) brokenOff.toArray = ([⟨1, 0, []⟩, ⟨2, 5, [9]⟩], none) := by
  have hwhole : stream none brokenOff.toArray =
      ([⟨1, 0, []⟩, ⟨2, 5, [9]⟩],
        some (.parse ⟨.frames, .truncatedFrame 4 0, some 11⟩)) := by decide +kernel
  have hk : 9 ≤ brokenOff.length := by decide
  obtain ⟨⟨frames, ending, hcut, hframes, -, hpart⟩, hlimit⟩ := stream_cut_or_limited brokenOff hk
  rw [hwhole] at hframes hlimit
  obtain rfl : frames = [⟨1, 0, []⟩] := hframes
  obtain ⟨need, left, rfl⟩ := hpart (by decide)
  exact ⟨hk, ⟨need, left, hcut⟩, hlimit 2⟩

end Frame

end Scanning
