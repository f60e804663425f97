import Scanning.CommandLine.Report

namespace Scanning.CommandLine

variable {look : String → Except FileFault (List UInt8)} {arguments : List String}
  {request : Request} {bytes : List UInt8}

/-- A command line that is understood, for a file that can be read, comes down to what its command
makes of the bytes. -/
theorem run_eq (hread : Request.read arguments = .ok request)
    (hfile : look (plainPath request.file) = .ok bytes) :
    run look arguments = .ok (request.command.report bytes) := by
  have hreport : request.report (.ok bytes) = request.command.report bytes := rfl
  rw [← hreport, ← hfile, run, hread]
  rfl

/-- A command that gives something out ends with zero. -/
theorem Command.report_of_output {command : Command} {output : String}
    (h : command.output bytes = .ok output) :
    command.report bytes = .ok { code := 0, output } := by
  rw [report, h]

/-- Only a command that has not failed ends with zero, and it shows its output. -/
theorem Command.output_of_report {command : Command} {report : Report}
    (h : command.report bytes = .ok report) (hcode : report.code = 0) :
    command.output bytes = .ok report.output := by
  rw [Command.report] at h
  cases houtput : command.output bytes with
  | ok output =>
    rw [houtput] at h
    cases h
    rfl
  | error fault =>
    cases hcomplaint : command.complaint? fault with
    | none => simp [houtput, hcomplaint] at h
    | some text =>
      obtain rfl : Report.ofComplaint text = report := by simpa [houtput, hcomplaint] using h
      cases hcode

/-- A file that is well-formed is read with unified line ends. -/
theorem readText_of_decode {chars : List Char} (h : Utf8.decode bytes = .ok chars) :
    readText bytes = .ok (String.ofList (unifyLineEnds chars)) := by
  rw [readText, h]

/-- A file that is not well-formed is not read, and its first defect is the reason. -/
theorem readText_of_malformed {stretch : Utf8.Malformed} (h : Utf8.decode bytes = .error stretch) :
    readText bytes = .error (.malformed stretch) := by
  rw [readText, h]

namespace TokenListing

open Lexer (Config readMaxTokens)

/-- The configuration that the settings ask for, if it can be had. -/
def wanted (settings : TokenListing) : Config where
  keepWhitespace := settings.keepWhitespace
  keepComments := settings.keepComments
  maxTokens := settings.mostTokens.map Int.toNat

variable {settings : TokenListing} {most : Int}

/-- The settings come down to one field of a configuration, the largest number of tokens. -/
theorem config_eq (settings : TokenListing) :
    settings.config =
      Record.Checked.field (.ok fun maxTokens => { settings.wanted with maxTokens })
        (Record.present readMaxTokens "max_tokens"
          ((settings.mostTokens.map Record.Raw.int).getD .null)) := rfl

theorem readIntFrom_int (least n : Int) :
    Record.readIntFrom least (.int n) = if n < least then .error (.below least) else .ok n := rfl

/-- Fewer tokens than one cannot be asked for. -/
theorem present_readMaxTokens (name : String) (most : Int) :
    Record.present readMaxTokens name (.int most) =
      if most < 1 then .error [⟨[name], .below 1⟩] else .ok (some most.toNat) := by
  rw [Record.present, readMaxTokens, readIntFrom_int]
  · by_cases h : most < 1
    · rw [if_pos h, if_pos h]
      rfl
    · rw [if_neg h, if_neg h]
      rfl
  · simp

/-- Settings without a number, or with one from one on, are taken. -/
theorem config_of_positive (h : ∀ most ∈ settings.mostTokens, 1 ≤ most) :
    settings.config = .ok settings.wanted := by
  obtain ⟨keepWhitespace, keepComments, mostTokens, isSummary⟩ := settings
  cases mostTokens with
  | none => rfl
  | some most =>
    have hmost : ¬ most < 1 := Int.not_lt.2 (h most rfl)
    rw [config_eq]
    simp only [Option.map_some, Option.getD_some]
    rw [present_readMaxTokens, if_neg hmost]
    rfl

/-- Settings with a number below one are refused for that field. -/
theorem config_of_below (hmost : settings.mostTokens = some most) (h : most < 1) :
    settings.config = .error [⟨["max_tokens"], .below 1⟩] := by
  rw [config_eq, hmost]
  simp only [Option.map_some, Option.getD_some]
  rw [present_readMaxTokens, if_pos h]
  rfl

/-- The settings are either refused for their number or taken as they are. -/
theorem below_or_positive (settings : TokenListing) :
    (∃ most, settings.mostTokens = some most ∧ most < 1) ∨
      ∀ most ∈ settings.mostTokens, 1 ≤ most := by
  cases h : settings.mostTokens with
  | none => exact .inr (by simp)
  | some most =>
    obtain hlt | hle := Int.lt_or_le most 1
    · exact .inl ⟨most, rfl, hlt⟩
    · exact .inr (by simpa using hle)

variable {chars : List Char}

/-- A file that is not well-formed has no tokens. -/
theorem tokens_of_malformed {stretch : Utf8.Malformed} (h : Utf8.decode bytes = .error stretch) :
    settings.tokens bytes = .error (.malformed stretch) := by
  rw [tokens, readText_of_malformed h]
  rfl

/-- A number below one is refused, but only once the file is decoded. -/
theorem tokens_of_below (hdecode : Utf8.decode bytes = .ok chars)
    (hmost : settings.mostTokens = some most) (h : most < 1) :
    settings.tokens bytes = .error (.invalidFields [⟨["max_tokens"], .below 1⟩]) := by
  rw [tokens, readText_of_decode hdecode, config_of_below hmost h]
  rfl

/-- The tokens of a well-formed file are those of its text with unified line ends. -/
theorem tokens_of_positive (hdecode : Utf8.decode bytes = .ok chars)
    (h : ∀ most ∈ settings.mostTokens, 1 ≤ most) :
    settings.tokens bytes =
      Lexer.tokenize settings.wanted (String.ofList (unifyLineEnds chars)) := by
  rw [tokens, readText_of_decode hdecode, config_of_positive h]
  rfl

/-- Tokens are given only of a text that is decoded, under settings that are taken. -/
theorem tokenize_of_tokens {given : List Lexer.Token} (hdecode : Utf8.decode bytes = .ok chars)
    (h : settings.tokens bytes = .ok given) :
    Lexer.tokenize settings.wanted (String.ofList (unifyLineEnds chars)) = .ok given := by
  obtain ⟨most, hmost, hlt⟩ | hpositive := settings.below_or_positive
  · rw [tokens_of_below hdecode hmost hlt] at h
    cases h
  · rwa [tokens_of_positive hdecode hpositive] at h

end TokenListing

/-- Tokens that are given are shown. -/
theorem run_of_tokens {settings : TokenListing} {given : List Lexer.Token}
    (hread : Request.read arguments = .ok request) (hcommand : request.command = .tokens settings)
    (hfile : look (plainPath request.file) = .ok bytes) (h : settings.tokens bytes = .ok given) :
    run look arguments = .ok (.ok { code := 0, output := settings.output given }) := by
  rw [run_eq hread hfile, hcommand]
  apply congrArg Except.ok
  apply Command.report_of_output
  rw [Command.output, h]
  rfl

end Scanning.CommandLine
