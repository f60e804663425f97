import Scanning.Proofs.CommandLine.Stages
import Scanning.Proofs.Frame.Cutting
import Scanning.Proofs.Lexer.Ending
import Scanning.Proofs.Lexer.Selection

namespace Scanning.CommandLine

variable {bytes : List UInt8} {command : Command} {fault : Fault}

/-- The stages of the commands. -/
inductive Stage where
  | decoding
  | configuration
  | lexing
  | framing
  deriving DecidableEq, Repr

/-- The stage at which a command fails on the bytes of its file, and the failure. Tokens are only
counted out when the bytes are decoded, and the text is only scanned when the settings are taken. -/
inductive FailsAt (bytes : List UInt8) : Command → Stage → Fault → Prop where
  | decoding {settings : TokenListing} {stretch : Utf8.Malformed}
      (hdecode : Utf8.decode bytes = .error stretch) :
      FailsAt bytes (.tokens settings) .decoding (.malformed stretch)
  | configuration {settings : TokenListing} {chars : List Char} {most : Int}
      (hdecode : Utf8.decode bytes = .ok chars) (hmost : settings.mostTokens = some most)
      (hbelow : most < 1) :
      FailsAt bytes (.tokens settings) .configuration
        (.invalidFields [⟨["max_tokens"], .below 1⟩])
  | lexing {settings : TokenListing} {chars : List Char} {fault : Fault}
      (hdecode : Utf8.decode bytes = .ok chars)
      (hpositive : ∀ most ∈ settings.mostTokens, 1 ≤ most)
      (htokens : Lexer.tokenize settings.wanted (String.ofList (unifyLineEnds chars)) =
        .error fault) :
      FailsAt bytes (.tokens settings) .lexing fault
  | framing {settings : FrameListing} {frames : List Frame} {fault : Fault}
      (hframes : Frame.stream settings.mostFrames bytes.toArray = (frames, some fault)) :
      FailsAt bytes (.frames settings) .framing fault

/-- A token listing fails exactly by failing at one of its stages. -/
theorem tokens_eq_error_iff {settings : TokenListing} :
    settings.tokens bytes = .error fault ↔ ∃ stage, FailsAt bytes (.tokens settings) stage fault := by
  constructor
  · intro h
    cases hdecode : Utf8.decode bytes with
    | error stretch =>
      rw [TokenListing.tokens_of_malformed hdecode] at h
      cases h
      exact ⟨.decoding, .decoding hdecode⟩
    | ok chars =>
      obtain ⟨most, hmost, hbelow⟩ | hpositive := settings.below_or_positive
      · rw [TokenListing.tokens_of_below hdecode hmost hbelow] at h
        cases h
        exact ⟨.configuration, .configuration hdecode hmost hbelow⟩
      · rw [TokenListing.tokens_of_positive hdecode hpositive] at h
        exact ⟨.lexing, .lexing hdecode hpositive h⟩
  · rintro ⟨stage, h⟩
    cases h with
    | decoding hdecode => exact TokenListing.tokens_of_malformed hdecode
    | configuration hdecode hmost hbelow => exact TokenListing.tokens_of_below hdecode hmost hbelow
    | lexing hdecode hpositive htokens =>
      rw [TokenListing.tokens_of_positive hdecode hpositive, htokens]

/-- A frame listing fails exactly by failing at one of its stages. -/
theorem frames_eq_error_iff {settings : FrameListing} :
    settings.frames bytes = .error fault ↔ ∃ stage, FailsAt bytes (.frames settings) stage fault := by
  rw [FrameListing.frames]
  constructor
  · intro h
    split at h
    · cases h
    · cases h
      exact ⟨.framing, .framing ‹_›⟩
  · rintro ⟨stage, h⟩
    cases h with
    | framing hframes => rw [hframes]

/-- A command has no output exactly if it fails at one of its stages. -/
theorem output_eq_error_iff :
    command.output bytes = .error fault ↔ ∃ stage, FailsAt bytes command stage fault := by
  cases command with
  | tokens settings => exact Fault.map_eq_error.trans tokens_eq_error_iff
  | frames settings => exact Fault.map_eq_error.trans frames_eq_error_iff

/-- Text is tokenized, or the lexer complains. -/
theorem exists_parse_of_tokenize {config : Lexer.Config} {text : String}
    (hroom : ∀ most ∈ config.maxTokens, 0 < most) (h : Lexer.tokenize config text = .error fault) :
    ∃ failure, fault = .parse failure := by
  rw [Lexer.tokenize, Lexer.tokens] at h
  split at h
  · cases h
  · rename_i hscan
    cases h
    obtain ⟨complaint, stop, -, hfault⟩ := Lexer.scanAll_fault hroom text (congrArg Prod.snd hscan)
    exact ⟨_, hfault⟩

/-- The settings that are taken ask for one token at least. -/
theorem wanted_maxTokens_pos {settings : TokenListing}
    (hpositive : ∀ most ∈ settings.mostTokens, 1 ≤ most) :
    ∀ most ∈ settings.wanted.maxTokens, 0 < most := by
  intro most hmost
  obtain ⟨asked, hasked, rfl⟩ := Option.mem_map.1 hmost
  have := hpositive asked hasked
  omega

/-- A command complains of all its failures behind the decoding. -/
theorem exists_complaint {stage : Stage} (h : FailsAt bytes command stage fault)
    (hstage : stage ≠ .decoding) : ∃ text, command.complaint? fault = some text := by
  cases h with
  | decoding => exact absurd rfl hstage
  | configuration => exact ⟨_, rfl⟩
  | lexing hdecode hpositive htokens =>
    obtain ⟨failure, rfl⟩ := exists_parse_of_tokenize (wanted_maxTokens_pos hpositive) htokens
    exact ⟨_, rfl⟩
  | framing hframes =>
    obtain ⟨need, left, stop, rfl⟩ := Frame.stream_fault hframes
    exact ⟨_, rfl⟩

/-- Of what cannot be decoded no command complains. -/
theorem complaint?_of_decoding (h : FailsAt bytes command .decoding fault) :
    command.complaint? fault = none := by
  cases h
  rfl

/-- How a command is carried out: it shows something and ends with zero exactly if it does not fail;
it shows nothing but a complaint and ends with two exactly if it fails behind the decoding; and what
cannot be decoded is a fault that nothing holds up. -/
structure Ends (command : Command) (bytes : List UInt8) (outcome : Except Fault Report) : Prop where
  zero_iff : (∃ output, outcome = .ok { code := 0, output, complaint := none }) ↔
    ¬ ∃ stage fault, FailsAt bytes command stage fault
  two_iff : (∃ text, outcome =
      .ok { code := 2, output := "", complaint := some ("error: " ++ text ++ "\n") }) ↔
    ∃ stage fault, stage ≠ .decoding ∧ FailsAt bytes command stage fault
  fault_iff (fault : Fault) : outcome = .error fault ↔ FailsAt bytes command .decoding fault

/-- A command that fails behind the decoding ends with its complaint. -/
theorem report_of_failsAt {stage : Stage} (h : FailsAt bytes command stage fault)
    (hstage : stage ≠ .decoding) : ∃ text, command.report bytes = .ok (.ofComplaint text) := by
  obtain ⟨text, hcomplaint⟩ := exists_complaint h hstage
  refine ⟨text, ?_⟩
  rw [Command.report, output_eq_error_iff.2 ⟨stage, h⟩]
  dsimp only
  rw [hcomplaint]

/-- A command that fails at the decoding ends with the fault itself. -/
theorem report_of_decoding (h : FailsAt bytes command .decoding fault) :
    command.report bytes = .error fault := by
  rw [Command.report, output_eq_error_iff.2 ⟨.decoding, h⟩]
  dsimp only
  rw [complaint?_of_decoding h]

/-- A command gives something out, or fails behind the decoding, or at it. -/
theorem report_cases (command : Command) (bytes : List UInt8) :
    (∃ output, command.output bytes = .ok output) ∨
      (∃ stage fault, stage ≠ .decoding ∧ FailsAt bytes command stage fault) ∨
      ∃ fault, FailsAt bytes command .decoding fault := by
  cases houtput : command.output bytes with
  | ok output => exact .inl ⟨output, rfl⟩
  | error fault =>
    obtain ⟨stage, h⟩ := output_eq_error_iff.1 houtput
    by_cases hstage : stage = .decoding
    · subst hstage
      exact .inr (.inr ⟨fault, h⟩)
    · exact .inr (.inl ⟨stage, fault, hstage, h⟩)

/-- Every command on every file ends in one of these ways. -/
theorem ends_report (command : Command) (bytes : List UInt8) :
    Ends command bytes (command.report bytes) where
  zero_iff := by
    constructor
    · rintro ⟨output, hreport⟩ ⟨stage, fault, hfails⟩
      have houtput := Command.output_of_report hreport rfl
      rw [output_eq_error_iff.2 ⟨stage, hfails⟩] at houtput
      cases houtput
    · intro hnone
      obtain ⟨output, houtput⟩ | ⟨stage, fault, -, hfails⟩ | ⟨fault, hfails⟩ :=
        report_cases command bytes
      · exact ⟨output, Command.report_of_output houtput⟩
      · exact absurd ⟨stage, fault, hfails⟩ hnone
      · exact absurd ⟨.decoding, fault, hfails⟩ hnone
  two_iff := by
    constructor
    · rintro ⟨text, hreport⟩
      obtain ⟨output, houtput⟩ | hfails | ⟨fault, hfails⟩ := report_cases command bytes
      · rw [Command.report_of_output houtput] at hreport
        cases hreport
      · exact hfails
      · rw [report_of_decoding hfails] at hreport
        cases hreport
    · rintro ⟨stage, fault, hstage, hfails⟩
      exact report_of_failsAt hfails hstage
  fault_iff fault := by
    constructor
    · intro hreport
      obtain ⟨output, houtput⟩ | ⟨stage, _, hstage, hfails⟩ | ⟨_, hfails⟩ :=
        report_cases command bytes
      · rw [Command.report_of_output houtput] at hreport
        cases hreport
      · obtain ⟨text, hcomplaint⟩ := report_of_failsAt hfails hstage
        rw [hcomplaint] at hreport
        cases hreport
      · rw [report_of_decoding hfails] at hreport
        cases hreport
        exact hfails
    · exact report_of_decoding

variable {look : String → Except FileFault (List UInt8)} {arguments : List String}
  {request : Request}

/-- A command line that is understood, about a file that can be read, ends with zero or with two,
unless it is to list tokens and the file is not well-formed: then nothing catches the fault of the
decoder. -/
theorem run_ends (hread : Request.read arguments = .ok request)
    (hfile : look (plainPath request.file) = .ok bytes) :
    ∃ outcome, run look arguments = .ok outcome ∧ Ends request.command bytes outcome :=
  ⟨_, run_eq hread hfile, ends_report request.command bytes⟩

/-- The settings are refused, though the text has no failure in it. -/
theorem run_ends_no_tokens :
    Request.read ["tokens", "in", "--max-tokens=0"] =
        .ok ⟨0, .tokens { mostTokens := some 0 }, "in"⟩ ∧
      ∃ outcome, run (fun _ => .ok [0x61]) ["tokens", "in", "--max-tokens=0"] = .ok outcome ∧
        Ends (.tokens { mostTokens := some 0 }) [0x61] outcome := by
  have hread : Request.read ["tokens", "in", "--max-tokens=0"] =
      .ok ⟨0, .tokens { mostTokens := some 0 }, "in"⟩ := by
    decide +kernel
  exact ⟨hread, run_ends hread rfl⟩

/-- A byte that begins no character comes out as a fault, not as a complaint. -/
theorem run_undecodable : run (fun _ => .ok [0xFF]) ["tokens", "in"] =
    .ok (.error (.malformed ⟨0xFF, 0, 1, .invalidStart⟩)) := by
  have hread : Request.read ["tokens", "in"] = .ok ⟨0, .tokens {}, "in"⟩ := by decide +kernel
  have hdecode : Utf8.decode [0xFF] = .error ⟨0xFF, 0, 1, .invalidStart⟩ := by decide +kernel
  rw [run_eq hread rfl, report_of_decoding (.decoding hdecode)]

end Scanning.CommandLine
