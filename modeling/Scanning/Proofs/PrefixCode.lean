namespace Scanning

/-- A word for each symbol; no word is empty, and none begins with another one. -/
structure PrefixCode (α β : Type) where
  word : α → List β
  ne_nil (symbol : α) : word symbol ≠ []
  eq_of_prefix {symbol other : α} : word symbol <+: word other → symbol = other

namespace PrefixCode

variable {α β : Type} (code : PrefixCode α β)

/-- The words of a message, one after the other. -/
def encode (message : List α) : List β := message.flatMap code.word

/-- The words of the message stand at the front of the text, and with `rest` no further word
begins. -/
structure Front (text : List β) (message : List α) (rest : List β) : Prop where
  text_eq : text = code.encode message ++ rest
  stops (symbol : α) : ¬ code.word symbol <+: rest

variable {code}

theorem encode_cons (symbol : α) (message : List α) :
    code.encode (symbol :: message) = code.word symbol ++ code.encode message := rfl

/-- The first word of a text is known from the text. -/
theorem append_inj {symbol other : α} {rest rest' : List β}
    (h : code.word symbol ++ rest = code.word other ++ rest') :
    symbol = other ∧ rest = rest' := by
  have hword : code.word symbol <+: code.word other ++ rest' := ⟨rest, h⟩
  have hother : code.word other <+: code.word other ++ rest' := ⟨rest', rfl⟩
  have hsame : symbol = other := by
    obtain hbegins | hbegins := List.prefix_or_prefix_of_prefix hword hother
    · exact code.eq_of_prefix hbegins
    · exact (code.eq_of_prefix hbegins).symm
  subst hsame
  exact ⟨rfl, List.append_cancel_left h⟩

/-- Every text has a front. Each word that is taken shortens what is left. -/
theorem exists_front (code : PrefixCode α β) (text : List β) :
    ∃ message rest, code.Front text message rest := by
  induction hsize : text.length using Nat.strongRecOn generalizing text with
  | _ size ih =>
    by_cases hbegins : ∃ symbol, code.word symbol <+: text
    · obtain ⟨symbol, others, rfl⟩ := hbegins
      have hpos := List.length_pos_iff.2 (code.ne_nil symbol)
      rw [List.length_append] at hsize
      obtain ⟨message, rest, htext, hstops⟩ := ih others.length (by omega) others rfl
      refine ⟨symbol :: message, rest, ?_, hstops⟩
      rw [encode_cons, List.append_assoc, ← htext]
    · exact ⟨[], text, rfl, fun symbol hsymbol => hbegins ⟨symbol, hsymbol⟩⟩

/-- Nothing is left of a text that is no more than words. -/
theorem front_encode (code : PrefixCode α β) (message : List α) :
    code.Front (code.encode message) message [] where
  text_eq := (List.append_nil _).symm
  stops symbol h := code.ne_nil symbol (List.prefix_nil.1 h)

namespace Front

variable {text rest : List β} {message other : List α}

/-- No other message at the front of the text goes further. -/
theorem prefix_message (h : code.Front text message rest) (hother : code.encode other <+: text) :
    other <+: message := by
  obtain ⟨rfl, hstops⟩ := h
  induction other generalizing message with
  | nil => exact List.nil_prefix
  | cons symbol others ih =>
    rw [encode_cons] at hother
    cases message with
    | nil => exact absurd ((List.prefix_append _ _).trans hother) (hstops symbol)
    | cons first message =>
      obtain ⟨more, hmore⟩ := hother
      rw [encode_cons, List.append_assoc, List.append_assoc] at hmore
      obtain ⟨rfl, hrest⟩ := append_inj hmore
      exact List.cons_prefix_cons.2 ⟨rfl, ih ⟨more, hrest⟩⟩

/-- No words at the front of a text reach further than those of its front. -/
theorem length_le (h : code.Front text message rest) (hother : code.encode other <+: text) :
    (code.encode other).length ≤ (code.encode message).length := by
  obtain ⟨more, rfl⟩ := h.prefix_message hother
  rw [encode, encode, List.flatMap_append, List.length_append]
  exact Nat.le_add_right _ _

/-- Only a text that is no more than words is left without a rest. -/
theorem rest_eq_nil_iff (h : code.Front text message rest) :
    rest = [] ↔ ∃ other, code.encode other = text := by
  constructor
  · rintro rfl
    exact ⟨message, by rw [h.text_eq, List.append_nil]⟩
  · rintro ⟨other, hother⟩
    have hbegins : code.encode other <+: text := ⟨[], by rw [List.append_nil, hother]⟩
    have hle := h.length_le hbegins
    rw [hother, h.text_eq, List.length_append] at hle
    exact List.length_eq_zero_iff.1 (by omega)

/-- The text up to where its front ends is the words of the front. -/
theorem take_eq (h : code.Front text message rest) :
    text.take (code.encode message).length = code.encode message := by
  rw [h.text_eq, List.take_left]

theorem stop_le (h : code.Front text message rest) :
    (code.encode message).length ≤ text.length := by
  rw [h.text_eq, List.length_append]
  exact Nat.le_add_right _ _

/-- The front ends in front of the end of the text if anything is left. -/
theorem stop_lt (h : code.Front text message rest) (hrest : rest ≠ []) :
    (code.encode message).length < text.length := by
  have hpos := List.length_pos_iff.2 hrest
  rw [h.text_eq, List.length_append]
  omega

/-- No longer part at the front of the text is made of words. -/
theorem longest (h : code.Front text message rest) {longer : Nat} (hle : longer ≤ text.length)
    (hwords : ∃ other, code.encode other = text.take longer) :
    longer ≤ (code.encode message).length := by
  obtain ⟨other, hother⟩ := hwords
  have hlength := h.length_le (hother ▸ List.take_prefix longer text)
  rw [hother, List.length_take, Nat.min_eq_left hle] at hlength
  exact hlength

/-- The front of a text that is cut off: as much of the message as fits in front of the cut. -/
theorem cut (h : code.Front text message rest) (k : Nat) :
    ∃ first others rest', message = first ++ others ∧ code.Front (text.take k) first rest' ∧
      ∀ symbol more, others = symbol :: more →
        k < (code.encode first).length + (code.word symbol).length := by
  obtain ⟨first, rest', hfront⟩ := code.exists_front (text.take k)
  have hbegins : code.encode first <+: text.take k := ⟨rest', hfront.text_eq.symm⟩
  obtain ⟨others, rfl⟩ := h.prefix_message (hbegins.trans (List.take_prefix k text))
  refine ⟨first, others, rest', rfl, hfront, ?_⟩
  rintro symbol more rfl
  refine Nat.lt_of_not_le fun hfits => ?_
  -- If the next word fitted as well, the front of what is left would go on with it.
  have hlength : (code.encode (first ++ [symbol])).length =
      (code.encode first).length + (code.word symbol).length := by
    simp only [encode, List.flatMap_append, List.flatMap_singleton, List.length_append]
  have hlonger : code.encode (first ++ [symbol]) <+: text.take k := by
    refine List.prefix_take_iff.2 ⟨⟨code.encode more ++ rest, ?_⟩, hlength ▸ hfits⟩
    rw [h.text_eq]
    simp only [encode, List.flatMap_append, List.flatMap_cons, List.flatMap_nil, List.append_assoc,
      List.append_nil]
  have hle := hfront.length_le hlonger
  have hpos := List.length_pos_iff.2 (code.ne_nil symbol)
  omega

end Front

end PrefixCode

end Scanning
