import Scanning.Proofs.CommandLine.LineEnds
import Scanning.Proofs.CommandLine.Stages
import Scanning.Proofs.Lexer.Malformed

namespace Scanning.CommandLine

open Lexer (Config Token Tiles)

variable {token : Token} {tokens : List Token} {chars text : List Char} {start stop : Nat}

/-- The token shows what the characters hold between its offsets. -/
def IsSliceOf (token : Token) (chars : List Char) : Prop :=
  token.text.toList = sliceBetween chars.toArray token.start token.stop

/-- A token with such offsets is the slice between them. -/
theorem isSliceOf_iff (hstart : token.start = start) (hstop : token.stop = stop) :
    IsSliceOf token chars ↔ token.text.toList = (chars.take stop).drop start := by
  rw [IsSliceOf, hstart, hstop, sliceBetween_natCast]

/-- What the offsets of a token say about the characters of its file: where its text stands when
line ends are unified, of which piece of the file it is made, and when it is that piece. -/
structure PointsInto (token : Token) (chars : List Char) : Prop where
  start_nonneg : 0 ≤ token.start
  start_lt : token.start < token.stop
  stop_le : token.stop ≤ (unifyLineEnds chars).length
  unified : IsSliceOf token (unifyLineEnds chars)
  source : token.text.toList = unifyLineEnds (sliceBetween chars.toArray
    (sourceOffset chars token.start.toNat) (sourceOffset chars token.stop.toNat))
  plain : '\r' ∉ chars.take token.stop.toNat → IsSliceOf token chars

/-- A piece of the unified text points into the characters of the file. -/
theorem pointsInto_of_isPiece {subject : String} (hsubject : subject.toList = unifyLineEnds chars)
    (hstart : 0 ≤ token.start) (hpiece : token.IsPiece (Sequence.ofText subject)) :
    PointsInto token chars := by
  have hlt := hpiece.start_lt
  have hstop : token.stop ≤ (unifyLineEnds chars).length := by
    rw [← hsubject]
    exact hpiece.stop_le
  have hunified : IsSliceOf token (unifyLineEnds chars) := by
    have hslice : Except.ok (sliceBetween subject.toList.toArray token.start token.stop) =
      (.ok token.text.toList : Except Fault (List Char)) := hpiece.slice_eq
    rw [hsubject] at hslice
    exact (Except.ok.inj hslice).symm
  obtain ⟨start, hstart'⟩ := Int.eq_ofNat_of_zero_le hstart
  obtain ⟨stop, hstop'⟩ := Int.eq_ofNat_of_zero_le (show 0 ≤ token.stop by omega)
  have htext := (isSliceOf_iff hstart' hstop').1 hunified
  have hle : stop ≤ chars.length := by
    have := length_unifyLineEnds_le chars
    omega
  refine ⟨hstart, hlt, hstop, hunified, ?_, ?_⟩
  · rw [hstart', hstop', Int.toNat_natCast, Int.toNat_natCast, sliceBetween_natCast,
      unifyLineEnds_piece chars (by omega), htext]
  · intro hplain
    rw [hstop', Int.toNat_natCast] at hplain
    rw [isSliceOf_iff hstart' hstop', htext, take_unifyLineEnds hle hplain]

/-- A text is tokenized exactly by a scan that has not failed. -/
theorem scanAll_of_tokenize {config : Config} {subject : String}
    (h : Lexer.tokenize config subject = .ok tokens) :
    Lexer.scanAll config (Sequence.ofText subject) = (tokens, none) := by
  rw [Lexer.tokenize, Lexer.tokens] at h
  split at h
  · cases h
    assumption
  · cases h

/-- The tokens of a unified text point into the characters of the file, under any configuration. -/
theorem pointsInto_of_tokenize {config : Config}
    (h : Lexer.tokenize config (String.ofList (unifyLineEnds chars)) = .ok tokens) :
    ∀ token ∈ tokens, PointsInto token chars := by
  have hgiven := congrArg Prod.fst (scanAll_of_tokenize h)
  rw [Lexer.scanAll_eq] at hgiven
  intro token hmem
  rw [← show _ = tokens from hgiven] at hmem
  obtain ⟨hpiece, hstart⟩ := Lexer.isPiece_of_mem_drain _ _ _ token hmem
  exact pointsInto_of_isPiece String.toList_ofList hstart hpiece

/-- Where tokens cover a text and are slices of other characters, these hold what the text does. -/
theorem getElem?_of_tiles (htiles : Tiles text start tokens stop)
    (hslices : ∀ token ∈ tokens, IsSliceOf token chars) {i : Nat} (hlow : start ≤ i)
    (hhigh : i < stop) : chars[i]? = text[i]? := by
  induction htiles with
  | nil => omega
  | @cons start next stop token tokens hlt hle hstart hstop htext hrest ih =>
    obtain hnext | hnext := Nat.lt_or_ge i next
    · have hslice := (isSliceOf_iff hstart hstop).1 (hslices token (.head _))
      rw [htext, String.toList_ofList] at hslice
      have hsame := congrArg (·[i - start]?) hslice
      simp only [List.getElem?_drop, Nat.add_sub_cancel' hlow, List.getElem?_take_of_lt hnext]
        at hsame
      exact hsame.symm
    · exact ih (fun other hmem => hslices other (.tail _ hmem)) hnext hhigh

/-- When nothing is left out, only the tokens of a file without carriage returns are all slices of
it: they cover the unified text, which has a newline where the file has its first carriage return. -/
theorem isSliceOf_iff_not_mem {config : Config} (hkeeps : config.KeepsAll)
    (h : Lexer.tokenize config (String.ofList (unifyLineEnds chars)) = .ok tokens) :
    (∀ token ∈ tokens, IsSliceOf token chars) ↔ '\r' ∉ chars := by
  constructor
  · intro hslices
    have htokens := Lexer.scanAll_tokenization hkeeps (String.ofList (unifyLineEnds chars))
    rw [scanAll_of_tokenize h, String.toList_ofList] at htokens
    obtain ⟨stop, htiles, hending⟩ := htokens.tiles (Nat.zero_le _) List.drop_zero
    obtain ⟨rfl⟩ := hending
    apply not_mem_of_take_eq
    apply List.ext_getElem?
    intro i
    obtain hi | hi := Nat.lt_or_ge i (unifyLineEnds chars).length
    · rw [List.getElem?_take_of_lt hi, getElem?_of_tiles htiles hslices (Nat.zero_le i) hi]
    · rw [List.getElem?_eq_none hi, List.getElem?_take_eq_none hi]
  · intro hplain token hmem
    exact (pointsInto_of_tokenize h token hmem).plain fun htake =>
      hplain (List.mem_of_mem_take htake)

variable {look : String → Except FileFault (List UInt8)} {arguments : List String}
  {request : Request} {settings : TokenListing} {bytes : List UInt8} {report : Report}

/-- The tokens that a listing shows of a well-formed file. All of them are slices of the unified
text. That they are slices of the file holds of those in front of its first carriage return; where
nothing is left out, it holds of all of them only if there is none. -/
theorem run_tokens_pointInto (hread : Request.read arguments = .ok request)
    (hcommand : request.command = .tokens settings) (hlisting : settings.isSummary = false)
    (hfile : look (plainPath request.file) = .ok bytes) (hdecode : Utf8.decode bytes = .ok chars)
    (hrun : run look arguments = .ok (.ok report)) (hcode : report.code = 0) :
    ∃ tokens, settings.tokens bytes = .ok tokens ∧
      report.output = listing (tokens.map Token.toDocument) ∧
      (∀ token ∈ tokens, PointsInto token chars) ∧
      (settings.wanted.KeepsAll → ((∀ token ∈ tokens, IsSliceOf token chars) ↔ '\r' ∉ chars)) := by
  rw [run_eq hread hfile, hcommand] at hrun
  have houtput := Command.output_of_report (Except.ok.inj hrun) hcode
  rw [Command.output] at houtput
  cases htokens : settings.tokens bytes with
  | error fault =>
    rw [htokens] at houtput
    cases houtput
  | ok tokens =>
    rw [htokens] at houtput
    have hshown : settings.output tokens = report.output := Except.ok.inj houtput
    rw [TokenListing.output, hlisting, if_neg Bool.false_ne_true] at hshown
    have htokenize := TokenListing.tokenize_of_tokens hdecode htokens
    exact ⟨tokens, rfl, hshown.symm, pointsInto_of_tokenize htokenize,
      fun hkeeps => isSliceOf_iff_not_mem hkeeps htokenize⟩

/-- Two words with a line end of two characters between them. -/
def twoLines : List UInt8 := [0x61, 0x0D, 0x0A, 0x62]

theorem decode_twoLines : Utf8.decode twoLines = .ok ['a', '\r', '\n', 'b'] := by
  decide +kernel

/-- Settings that leave nothing out. -/
def showingAll : TokenListing := { keepWhitespace := true, keepComments := true }

/-- The tokens of both words and of the line end between them, of which the first alone is a slice
of the file. -/
theorem run_tokens_pointInto_twoLines :
    Request.read ["tokens", "in", "--keep-whitespace", "--keep-comments"] =
        .ok ⟨0, .tokens showingAll, "in"⟩ ∧
      Utf8.decode twoLines = .ok ['a', '\r', '\n', 'b'] ∧
      ∃ report,
        run (fun _ => .ok twoLines) ["tokens", "in", "--keep-whitespace", "--keep-comments"] =
            .ok (.ok report) ∧
          report.code = 0 ∧
          ∃ tokens, showingAll.tokens twoLines = .ok tokens ∧
            report.output = listing (tokens.map Token.toDocument) ∧
            (∀ token ∈ tokens, PointsInto token ['a', '\r', '\n', 'b']) ∧
            (showingAll.wanted.KeepsAll →
              ((∀ token ∈ tokens, IsSliceOf token ['a', '\r', '\n', 'b']) ↔
                '\r' ∉ ['a', '\r', '\n', 'b'])) := by
  have htokens : showingAll.tokens twoLines =
      .ok [⟨.word, "a", 0, 1⟩, ⟨.space, "\n", 1, 2⟩, ⟨.word, "b", 2, 3⟩] := by
    decide +kernel
  have hread : Request.read ["tokens", "in", "--keep-whitespace", "--keep-comments"] =
      .ok ⟨0, .tokens showingAll, "in"⟩ := by
    decide +kernel
  have hrun : run (fun _ => .ok twoLines) _ = _ := run_of_tokens hread rfl rfl htokens
  exact ⟨hread, decode_twoLines, _, hrun, rfl,
    run_tokens_pointInto hread rfl rfl rfl decode_twoLines hrun rfl⟩

/-- The second word is shown with offsets that are one too low for its file. -/
theorem run_tokens_shifted :
    run (fun _ => .ok twoLines) ["tokens", "in"] = .ok (.ok {
      code := 0
      output := listing ([⟨.word, "a", 0, 1⟩, ⟨.word, "b", 2, 3⟩].map Token.toDocument) }) ∧
    ¬ IsSliceOf ⟨.word, "b", 2, 3⟩ ['a', '\r', '\n', 'b'] := by
  have htokens : TokenListing.tokens {} twoLines =
      .ok [⟨.word, "a", 0, 1⟩, ⟨.word, "b", 2, 3⟩] := by
    decide +kernel
  have hread : Request.read ["tokens", "in"] = .ok ⟨0, .tokens {}, "in"⟩ := by decide +kernel
  constructor
  · exact run_of_tokens hread rfl rfl htokens
  · rw [isSliceOf_iff rfl rfl]
    decide

end Scanning.CommandLine
