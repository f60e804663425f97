import Mathlib.Data.List.TakeWhile
import Scanning.Proofs.Lexer.Locality
import Scanning.Proofs.Lexer.Selection
import Scanning.Proofs.Record.Accepted

namespace Scanning.Lexer

open Unicode

variable {config : Config} {start : Nat} {text lexeme after word : List Char} {kind : TokenKind}
  {tokens : List Token} {ending : Option Fault}

/-- The text does not begin with white space. -/
def BeginsVisibly (text : List Char) : Prop := ∀ first ∈ text.head?, isBlank first = false

instance : DecidablePred BeginsVisibly := fun text => Option.decidableForallMem text.head?

/-- A comment goes to the end of a line, from a place where the word that begins it stands and white
space does not. -/
structure IsComment (word lexeme after : List Char) : Prop where
  run : LongestRun (· != '\n') lexeme after
  begins : word <+: lexeme ++ after
  visible : BeginsVisibly (lexeme ++ after)

namespace IsComment

theorem not_mem_newline (h : IsComment word lexeme after) : '\n' ∉ lexeme := by
  intro hmem
  have hclass := h.run.inClass_of_mem '\n' hmem
  cases hclass

/-- A word that stands in one line is shown whole. -/
theorem prefix_lexeme (h : IsComment word lexeme after) (hline : '\n' ∉ word) : word <+: lexeme :=
  h.run.prefix_of_prefix hline h.begins

/-- A word that begins a comment does not begin with white space. -/
theorem beginsVisibly_word (h : IsComment word lexeme after) : BeginsVisibly word := by
  intro first hfirst
  obtain ⟨more, hmore⟩ := h.begins
  apply h.visible
  rw [← hmore, List.head?_append, Option.mem_def.1 hfirst]
  rfl

end IsComment

/-- What the grammar reads as a comment is one, whatever stands behind it. -/
theorem Reads.exists_isComment (h : Reads config text (.lexeme kind lexeme))
    (hkind : kind = .comment) : ∃ after, IsComment config.commentPrefix.toList lexeme after := by
  cases h with
  | @lexeme rule first rest _ after hselected hcovers htext =>
    cases rule with
    | space | number | word | string | operator | punctuation => cases hkind
    | comment =>
      cases hcovers with
      | comment hrun =>
        refine ⟨after, hrun, ?_, ?_⟩
        · rw [← htext]
          exact hselected.applies
        · rw [← htext]
          rintro c ⟨⟩
          exact Bool.eq_false_iff.2 (hselected.not_isBlank (by decide))

/-- All comments among the tokens of a text are comments of that text. -/
theorem Tokenization.exists_isComment (h : Tokenization config start text tokens ending) :
    ∀ token ∈ tokens, token.kind = .comment →
      ∃ after, IsComment config.commentPrefix.toList token.text.toList after := by
  induction h with
  | finished | unterminated | unexpected => simp
  | token hreads htext hrest ih =>
    intro token hmem hkind
    obtain rfl | hmem := List.mem_cons.1 hmem
    · rw [String.toList_ofList]
      exact hreads.exists_isComment hkind
    · exact ih token hmem hkind

/-- Where the prefix stands and does not begin with white space, a comment is read to the end of the
line. -/
theorem reads_comment (hnone : config.commentPrefix.toList ≠ [])
    (hvisible : BeginsVisibly config.commentPrefix.toList)
    (hbegins : config.commentPrefix.toList <+: text) :
    Reads config text (.lexeme .comment (text.takeWhile (· != '\n'))) := by
  obtain ⟨first, more, hword⟩ := List.exists_cons_of_ne_nil hnone
  obtain ⟨rest, rfl⟩ := hbegins
  have hselected : Rule.comment.Selected config first (more ++ rest) := by
    refine ⟨?_, ?_⟩
    · change config.commentPrefix.toList <+: first :: (more ++ rest)
      rw [hword]
      exact List.prefix_append (first :: more) rest
    · intro other hrank
      cases other with
      | space => exact Bool.eq_false_iff.1 (hvisible first (by rw [hword]; rfl))
      | comment | number | word | string | operator | punctuation =>
        exact absurd hrank (by decide)
  rw [hword]
  exact .lexeme hselected (.comment (longestRun_takeWhile _ _))
    List.takeWhile_append_dropWhile.symm

/-- The first token is the lexeme that the grammar finds at the front. -/
theorem Tokenization.exists_cons (h : Tokenization config start text tokens ending)
    (hreads : Reads config text (.lexeme kind lexeme)) :
    ∃ others, tokens =
      ⟨kind, String.ofList lexeme, start, (start + lexeme.length : Nat)⟩ :: others := by
  cases h with
  | token hreads' htext hrest =>
    cases hreads.unique hreads'
    exact ⟨_, rfl⟩
  | finished hreads' | unterminated hreads' | unexpected hreads' => cases hreads.unique hreads'

section Scan

variable (haccepted : config.Accepted)

include haccepted

/-- An accepted prefix is not empty. -/
theorem Config.Accepted.commentPrefix_ne_nil : config.commentPrefix.toList ≠ [] := by
  have hblank := haccepted.1
  rw [isBlankPrefix, Bool.or_eq_false_iff, String.isEmpty_eq_false_iff] at hblank
  exact mt String.toList_eq_nil_iff.1 hblank.1

/-- Every comment of a scan is one, whatever is dropped and wherever the scan stops. -/
theorem exists_isComment_of_mem_scanAll {source : String} {token : Token}
    (hmem : token ∈ (scanAll config (Sequence.ofText source)).1) (hkind : token.kind = .comment) :
    ∃ after, IsComment config.commentPrefix.toList token.text.toList after := by
  obtain ⟨ending, outcome, hlimited, -, -⟩ := scanAll_limited haccepted.2 source
  have hall := (List.mem_filter.1 (hlimited.prefix_tokens.subset hmem)).1
  exact (scanAll_tokenization config.keepsAll_keepingAll source).exists_isComment token hall hkind

variable (hkeeps : config.keepComments = true)
  (hvisible : BeginsVisibly config.commentPrefix.toList)

include hkeeps hvisible

/-- A prefix that does not begin with white space begins a comment wherever a text begins with it. -/
theorem mem_scanAll_of_begins {source : String}
    (hbegins : config.commentPrefix.toList <+: source.toList) :
    ⟨.comment, String.ofList (source.toList.takeWhile (· != '\n')), 0,
      (source.toList.takeWhile (· != '\n')).length⟩ ∈
      (scanAll config (Sequence.ofText source)).1 := by
  have hnone : config.keepingAll.commentPrefix.toList ≠ [] := haccepted.commentPrefix_ne_nil
  obtain ⟨ending, outcome, hlimited, -, -⟩ := scanAll_limited haccepted.2 source
  obtain ⟨others, hall⟩ := (scanAll_tokenization config.keepsAll_keepingAll source).exists_cons
    (reads_comment hnone hvisible hbegins)
  rw [hall, List.filter_cons_of_pos] at hlimited
  · simpa using hlimited.mem_of_cons
  · simp [Config.Keeps, hkeeps]

/-- A line that begins with the prefix is one comment. -/
theorem tokenize_line {source : String} (hline : '\n' ∉ source.toList)
    (hbegins : config.commentPrefix.toList <+: source.toList) :
    tokenize config source = .ok [⟨.comment, source, 0, source.length⟩] := by
  have hnone : config.keepingAll.commentPrefix.toList ≠ [] := haccepted.commentPrefix_ne_nil
  have hwhole : source.toList.takeWhile (· != '\n') = source.toList := by
    rw [List.takeWhile_eq_self_iff]
    intro c hc
    rw [bne_iff_ne]
    rintro rfl
    exact hline hc
  have hreads := reads_comment hnone hvisible hbegins
  rw [hwhole] at hreads
  have hall : Tokenization config.keepingAll 0 source.toList
      [⟨.comment, source, 0, source.length⟩] none := by
    have htoken : Tokenization config.keepingAll 0 source.toList _ none :=
      .token hreads (List.append_nil _).symm (.finished .finished)
    rw [String.ofList_toList, Nat.zero_add, String.length_toList] at htoken
    exact htoken
  have hkept : ([⟨.comment, source, 0, source.length⟩] : List Token).filter config.Keeps =
      [⟨.comment, source, 0, source.length⟩] := by
    simp [Config.Keeps, hkeeps]
  have hgiven := tokenize_of_tokenization haccepted.2 hall
  rw [hkept] at hgiven
  exact hgiven haccepted.2

end Scan

/-- Whatever follows on its line, the comment prefix makes a comment of the whole text. -/
def Config.ReadsWholeComments (config : Config) : Prop :=
  ∀ rest : String, '\n' ∉ rest.toList →
    tokenize config (config.commentPrefix ++ rest) =
      .ok [⟨.comment, config.commentPrefix ++ rest, 0, (config.commentPrefix ++ rest).length⟩]

/-- The comments of all texts begin with the comment prefix. -/
def Config.ShowsPrefixes (config : Config) : Prop :=
  ∀ source : String, ∀ token ∈ (scanAll config (Sequence.ofText source)).1,
    token.kind = .comment → config.commentPrefix.toList <+: token.text.toList

theorem scanAll_of_tokenize {source : String} (h : tokenize config source = .ok tokens) :
    (scanAll config (Sequence.ofText source)).1 = tokens := by
  rw [tokenize, Lexer.tokens] at h
  generalize scanAll config (Sequence.ofText source) = scan at h ⊢
  obtain ⟨given, ending⟩ := scan
  cases ending with
  | none => exact Except.ok.inj h
  | some fault => cases h

section Accepted

variable (haccepted : config.Accepted)

include haccepted

/-- White space is looked for first, so nothing that begins with it begins a comment. -/
theorem kind_ne_comment_of_blank (hblank : ¬ BeginsVisibly config.commentPrefix.toList) :
    ∀ source : String, ∀ token ∈ (scanAll config (Sequence.ofText source)).1,
      token.kind ≠ .comment := by
  intro source token hmem hkind
  obtain ⟨after, hcomment⟩ := exists_isComment_of_mem_scanAll haccepted hmem hkind
  exact hblank hcomment.beginsVisibly_word

variable (hkeeps : config.keepComments = true)

include hkeeps

/-- The prefix makes comments of whole texts exactly if it neither begins with white space nor has a
line break in it. -/
theorem readsWholeComments_iff : config.ReadsWholeComments ↔
    BeginsVisibly config.commentPrefix.toList ∧ '\n' ∉ config.commentPrefix.toList := by
  constructor
  · intro hwhole
    -- The prefix alone is a comment, so it is what a comment can be.
    have hword := scanAll_of_tokenize (hwhole "" List.not_mem_nil)
    obtain ⟨after, hcomment⟩ := exists_isComment_of_mem_scanAll haccepted
      (hword ▸ List.mem_cons_self) rfl
    have hline := hcomment.not_mem_newline
    rw [String.append_empty] at hline
    exact ⟨hcomment.beginsVisibly_word, hline⟩
  · rintro ⟨hvisible, hline⟩ rest hrest
    apply tokenize_line haccepted hkeeps hvisible
    · rw [String.toList_append, List.mem_append]
      exact not_or_intro hline hrest
    · rw [String.toList_append]
      exact List.prefix_append _ _

/-- Comments begin with the prefix in all texts exactly if a prefix that begins them at all has no
line break. -/
theorem showsPrefixes_iff : config.ShowsPrefixes ↔
    (BeginsVisibly config.commentPrefix.toList → '\n' ∉ config.commentPrefix.toList) := by
  constructor
  · intro hshows hvisible hline
    have hbegins : config.commentPrefix.toList <+: config.commentPrefix.toList := List.prefix_rfl
    have hmem := mem_scanAll_of_begins haccepted hkeeps hvisible hbegins
    have hshown := (hshows _ _ hmem rfl).subset hline
    rw [String.toList_ofList] at hshown
    have hclass := List.mem_takeWhile_imp hshown
    cases hclass
  · intro hline source token hmem hkind
    obtain ⟨after, hcomment⟩ := exists_isComment_of_mem_scanAll haccepted hmem hkind
    exact hcomment.prefix_lexeme (hline hcomment.beginsVisibly_word)

end Accepted

/-- A comment prefix that the fields may give makes comments as it should exactly if it neither begins
with white space nor goes over a line break. One that begins with white space makes no comments at
all, and one that does not, but goes over a line break, makes comments that show a part of it only. -/
theorem comments_iff {fields : List (String × Record.Raw)}
    (hread : Config.ofFields fields = .ok config) (hkeeps : config.keepComments = true) :
    (config.ReadsWholeComments ↔
      BeginsVisibly config.commentPrefix.toList ∧ '\n' ∉ config.commentPrefix.toList) ∧
    (config.ShowsPrefixes ↔
      (BeginsVisibly config.commentPrefix.toList → '\n' ∉ config.commentPrefix.toList)) ∧
    (¬ BeginsVisibly config.commentPrefix.toList →
      ∀ source : String, ∀ token ∈ (scanAll config (Sequence.ofText source)).1,
        token.kind ≠ .comment) := by
  have haccepted : config.Accepted := accepted_of_ofFields hread
  exact ⟨readsWholeComments_iff haccepted hkeeps, showsPrefixes_iff haccepted hkeeps,
    kind_ne_comment_of_blank haccepted⟩

/-- Fields that keep the comments and say what begins them. -/
def keepingComments (word : String) : List (String × Record.Raw) :=
  [("keep_comments", .bool true), ("comment_prefix", .text word)]

/-- Comments that begin with two slashes. -/
def slashes : Config := { keepComments := true, commentPrefix := "//" }

/-- Two slashes begin a comment that is read whole. -/
theorem comments_iff_slashes :
    Config.ofFields (keepingComments "//") = .ok slashes ∧ slashes.keepComments = true ∧
      tokenize slashes "// a" = .ok [⟨.comment, "// a", 0, 4⟩] := by
  have hread : Config.ofFields (keepingComments "//") = .ok slashes := rfl
  exact ⟨hread, rfl, (comments_iff hread rfl).1.2 ⟨by decide, by decide⟩ " a" (by decide)⟩

/-- Comments that are to begin with a space. -/
def spacedHash : Config := { keepComments := true, commentPrefix := " #" }

/-- A prefix that begins with white space is let through, but no comment begins with it. -/
theorem spacedHash_unread :
    Config.ofFields (keepingComments " #") = .ok spacedHash ∧ spacedHash.keepComments = true ∧
      tokenize spacedHash " # note" = .error (.parse ⟨.lexer, .unexpectedCharacter '#', some 1⟩) ∧
      ¬ spacedHash.ReadsWholeComments := by
  have hscan : scanAll spacedHash (Sequence.ofText " # note") =
      ([], some (.parse ⟨.lexer, .unexpectedCharacter '#', some 1⟩)) := by decide +kernel
  have hread : tokenize spacedHash " # note" =
      .error (.parse ⟨.lexer, .unexpectedCharacter '#', some 1⟩) := by
    rw [tokenize, Lexer.tokens, hscan]
  refine ⟨rfl, rfl, hread, ?_⟩
  intro hwhole
  have hcomment := hwhole " note" (by decide)
  have hsource : spacedHash.commentPrefix ++ " note" = " # note" := by decide
  rw [hsource, hread] at hcomment
  cases hcomment

end Scanning.Lexer
