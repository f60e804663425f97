import Scanning.CommandLine.Argument

namespace Scanning.CommandLine

/-- How tokens are listed. -/
structure TokenListing where
  keepWhitespace : Bool := false
  keepComments : Bool := false
  mostTokens : Option Int := none
  isSummary : Bool := false
  deriving DecidableEq, Repr

/-- How frames are listed. -/
structure FrameListing where
  mostFrames : Option Int := none
  isSummary : Bool := false
  deriving DecidableEq, Repr

/-- What is asked for: to list the tokens of a text or the frames of a stream. -/
inductive Command where
  | tokens (listing : TokenListing)
  | frames (listing : FrameListing)
  deriving DecidableEq, Repr

/-- A command, the file that it is about, and how much of its work is logged. -/
structure Request where
  verbosity : Nat
  command : Command
  file : String
  deriving DecidableEq, Repr

/-- The option that every command has. -/
def helpFlag {α : Type} : Flag α := { long := "help", short := 'h', effect := .help }

/-- Options in front of the command. Each `-v` makes the log more verbose. -/
def commonFlags : List (Flag Nat) := [
  helpFlag,
  { long := "verbose", short := 'v', effect := .switch (· + 1) }]

/-- The options of a token listing. -/
def TokenListing.flags : List (Flag TokenListing) := [
  helpFlag,
  { long := "keep-whitespace", effect := .switch ({ · with keepWhitespace := true }) },
  { long := "keep-comments", effect := .switch ({ · with keepComments := true }) },
  { long := "max-tokens", effect := .number fun n listing => { listing with mostTokens := n } },
  { long := "summary", effect := .switch ({ · with isSummary := true }) }]

/-- The options of a frame listing. -/
def FrameListing.flags : List (Flag FrameListing) := [
  helpFlag,
  { long := "max-frames", effect := .number fun n listing => { listing with mostFrames := n } },
  { long := "summary", effect := .switch ({ · with isSummary := true }) }]

/-- The settings and the file of a command from the arguments behind its name. It needs a file, and
nothing may be left over, neither here nor in front of the name. -/
def readSettings {α : Type} (flags : List (Flag α)) (initial : α) (hasSurplus : Bool)
    (arguments : List String) : Except Exit (α × String) := do
  let words ← readWords flags arguments
  let gathered ← Gathered.acceptAll ⟨initial, none, hasSurplus⟩ words
  match gathered.operand, gathered.hasSurplus with
  | some file, false => return (gathered.settings, file)
  | _, _ => .error .usage

/-- The request of a command line. -/
def Request.read (arguments : List String) : Except Exit Request := do
  let words ← readWords commonFlags arguments
  let (common, rest) ← Gathered.acceptLeading ⟨0, none, false⟩ (arguments.zip words)
  match rest with
  | "tokens" :: rest =>
    let (listing, file) ← readSettings TokenListing.flags {} common.hasSurplus rest
    return ⟨common.settings, .tokens listing, file⟩
  | "frames" :: rest =>
    let (listing, file) ← readSettings FrameListing.flags {} common.hasSurplus rest
    return ⟨common.settings, .frames listing, file⟩
  | _ => .error .usage

end Scanning.CommandLine
