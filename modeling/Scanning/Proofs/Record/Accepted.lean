import Scanning.Record.Shapes

namespace Scanning

namespace Record

variable {α β : Type} {a : α} {raw : Raw}

/-- A record is made if it was made up to its last field and that field is not refused. -/
theorem Checked.field_eq_ok_iff {record : Checked (α → β)} {value : Checked α} {made : β} :
    Checked.field record value = .ok made ↔
      ∃ make a, record = .ok make ∧ value = .ok a ∧ make a = made := by
  cases record <;> cases value <;> simp [Checked.field]

/-- A field that need not be there has its own value or one that is read. -/
theorem optional_eq_ok_iff {fields : List (String × Raw)} {name : String} {default : α}
    {read : Raw → Except FieldCause α} :
    optional fields name default read = .ok a ↔
      (fields.lookup name = none ∧ default = a) ∨
        ∃ raw, fields.lookup name = some raw ∧ read raw = .ok a := by
  rw [optional]
  cases fields.lookup name with
  | none => simp
  | some raw =>
    simp only [present]
    cases hread : read raw <;> simp [hread]

/-- A reader that refuses some of what is read. -/
theorem guarded_eq_ok_iff {attempt : Except FieldCause α} {cause : FieldCause} {refused : α → Prop}
    [DecidablePred refused] :
    (do
      let b ← attempt
      if refused b then throw cause else return b) = .ok a ↔ attempt = .ok a ∧ ¬ refused a := by
  cases attempt with
  | error => simp [bind, Except.bind]
  | ok b =>
    change (if refused b then Except.error cause else .ok b) = .ok a ↔ _
    by_cases hb : refused b
    · rw [if_pos hb]
      constructor
      · intro hread
        cases hread
      · rintro ⟨⟨⟩, ha⟩
        exact absurd hb ha
    · rw [if_neg hb, Except.ok.injEq, iff_self_and]
      rintro rfl
      exact hb

/-- A number is accepted from a bound on exactly if it is read and is not below it. -/
theorem readIntFrom_eq_ok_iff {least n : Int} :
    readIntFrom least raw = .ok n ↔ readInt raw = .ok n ∧ least ≤ n := by
  rw [readIntFrom, guarded_eq_ok_iff, Int.not_lt]

end Record

namespace Lexer

open Record (Raw optional readBool readText)

variable {raw : Raw} {text : String} {most : Option Nat} {fields : List (String × Raw)}
  {config : Config}

/-- A comment prefix is accepted exactly if it is a text that shows something. -/
theorem readCommentPrefix_eq_ok_iff :
    readCommentPrefix raw = .ok text ↔ readText raw = .ok text ∧ isBlankPrefix text = false := by
  rw [readCommentPrefix, Record.guarded_eq_ok_iff, Bool.not_eq_true]

/-- The largest number of tokens is left open, or it is a number from one on. -/
theorem readMaxTokens_eq_ok_iff :
    readMaxTokens raw = .ok most ↔
      (raw = .null ∧ most = none) ∨
        ∃ n, Record.readIntFrom 1 raw = .ok n ∧ most = some n.toNat := by
  have hnull : Record.readIntFrom 1 .null = .error .notInteger := rfl
  cases raw with
  | null => simp [readMaxTokens, hnull, eq_comm]
  | bool | int | decimal | text | list | object =>
    rw [readMaxTokens]
    · cases Record.readIntFrom 1 _ <;> simp [Functor.map, Except.map, eq_comm]
    · rintro ⟨⟩

/-- A configuration is read field by field. -/
theorem ofFields_eq_ok_iff :
    Config.ofFields fields = .ok config ↔
      optional fields "keep_whitespace" ({} : Config).keepWhitespace readBool =
        .ok config.keepWhitespace ∧
      optional fields "keep_comments" ({} : Config).keepComments readBool =
        .ok config.keepComments ∧
      optional fields "comment_prefix" ({} : Config).commentPrefix readCommentPrefix =
        .ok config.commentPrefix ∧
      optional fields "punctuation" ({} : Config).punctuation readText = .ok config.punctuation ∧
      optional fields "quote_chars" ({} : Config).quoteChars readText = .ok config.quoteChars ∧
      optional fields "max_tokens" ({} : Config).maxTokens readMaxTokens = .ok config.maxTokens := by
  rw [Config.ofFields]
  simp only [Record.Checked.field_eq_ok_iff]
  constructor
  · rintro ⟨_, _, ⟨_, _, ⟨_, _, ⟨_, _, ⟨_, _, ⟨_, _, hmk, h₁, rfl⟩, h₂, rfl⟩, h₃, rfl⟩, h₄, rfl⟩,
      h₅, rfl⟩, h₆, rfl⟩
    cases hmk
    exact ⟨h₁, h₂, h₃, h₄, h₅, h₆⟩
  · rintro ⟨h₁, h₂, h₃, h₄, h₅, h₆⟩
    exact ⟨_, _, ⟨_, _, ⟨_, _, ⟨_, _, ⟨_, _, ⟨_, _, rfl, h₁, rfl⟩, h₂, rfl⟩, h₃, rfl⟩, h₄, rfl⟩,
      h₅, rfl⟩, h₆, rfl⟩

/-- An accepted configuration is read from the fields that spell it out. -/
theorem Config.Accepted.exists_ofFields (h : config.Accepted) :
    ∃ fields, Config.ofFields fields = .ok config := by
  refine ⟨[("keep_whitespace", .bool config.keepWhitespace),
    ("keep_comments", .bool config.keepComments), ("comment_prefix", .text config.commentPrefix),
    ("punctuation", .text config.punctuation), ("quote_chars", .text config.quoteChars),
    ("max_tokens", (config.maxTokens.map fun most => Raw.int most).getD .null)],
    ofFields_eq_ok_iff.2 ⟨rfl, rfl, ?_, rfl, rfl, ?_⟩⟩
  · exact Record.optional_eq_ok_iff.2
      (.inr ⟨_, rfl, readCommentPrefix_eq_ok_iff.2 ⟨rfl, h.1⟩⟩)
  · refine Record.optional_eq_ok_iff.2 (.inr ⟨_, rfl, readMaxTokens_eq_ok_iff.2 ?_⟩)
    cases hmost : config.maxTokens with
    | none => exact .inl ⟨rfl, rfl⟩
    | some most =>
      have hpositive : (1 : Int) ≤ most := Int.ofNat_le.2 (h.2 most hmost)
      exact .inr ⟨most, Record.readIntFrom_eq_ok_iff.2 ⟨rfl, hpositive⟩, rfl⟩

/-- A configuration that is read from fields is accepted, the values of its own included. -/
theorem accepted_of_ofFields (hread : Config.ofFields fields = .ok config) : config.Accepted := by
  obtain ⟨-, -, hshown, -, -, hmost⟩ := ofFields_eq_ok_iff.1 hread
  refine ⟨?_, ?_⟩
  · obtain ⟨-, hdefault⟩ | ⟨raw, -, hraw⟩ := Record.optional_eq_ok_iff.1 hshown
    · rw [← hdefault]
      decide
    · exact (readCommentPrefix_eq_ok_iff.1 hraw).2
  · obtain ⟨-, hdefault⟩ | ⟨raw, -, hraw⟩ := Record.optional_eq_ok_iff.1 hmost
    · simp [← hdefault]
    · obtain ⟨-, hnone⟩ | ⟨n, hn, hsome⟩ := readMaxTokens_eq_ok_iff.1 hraw
      · simp [hnone]
      · have hpositive := (Record.readIntFrom_eq_ok_iff.1 hn).2
        rintro most hmem
        rw [hsome] at hmem
        cases hmem
        omega

/-- The accepted configurations are those that are read from some fields. -/
theorem accepted_iff_exists_ofFields :
    config.Accepted ↔ ∃ fields, Config.ofFields fields = .ok config := by
  constructor
  · exact Config.Accepted.exists_ofFields
  · rintro ⟨fields, hread⟩
    exact accepted_of_ofFields hread

end Lexer

end Scanning
