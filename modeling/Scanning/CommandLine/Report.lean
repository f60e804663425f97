import Scanning.CommandLine.File
import Scanning.CommandLine.Request
import Scanning.Lexer.Scan
import Scanning.Record.Shapes

namespace Scanning.CommandLine

open Lexer (Token Summary)

/-- What a command leaves behind: its exit code, its output, and its complaint. -/
structure Report where
  code : Nat
  output : String := ""
  complaint : Option String := none
  deriving DecidableEq, Repr

/-- A command that has failed shows nothing but the reason. -/
def Report.ofComplaint (text : String) : Report :=
  { code := 2, complaint := some ("error: " ++ text ++ "\n") }

/-- Documents as one array. -/
def listing (documents : List Document) : String := (Document.array documents).layout 0 ++ "\n"

namespace TokenListing

/-- The lexer's configuration. -/
def config (settings : TokenListing) : Record.Checked Lexer.Config :=
  Lexer.Config.ofFields [
    ("keep_whitespace", .bool settings.keepWhitespace),
    ("keep_comments", .bool settings.keepComments),
    ("max_tokens", (settings.mostTokens.map Record.Raw.int).getD .null)]

/-- The tokens of a file. The file is read before the settings are checked. -/
def tokens (settings : TokenListing) (bytes : List UInt8) : Except Fault (List Token) := do
  let text ← readText bytes
  match settings.config with
  | .ok config => Lexer.tokenize config text
  | .error faults => .error (.invalidFields faults)

/-- The counts in one line. -/
def countsLine (summary : Summary) : String :=
  let counts := summary.byKind.map fun (kind, count) => kind.name ++ "=" ++ toString count
  let kinds := if counts.isEmpty then "" else " (" ++ ", ".intercalate counts ++ ")"
  s!"tokens={summary.tokens}" ++ kinds ++ "\n"

/-- The tokens as one array, or their counts. -/
def output (settings : TokenListing) (tokens : List Token) : String :=
  if settings.isSummary then countsLine (.ofTokens tokens)
  else listing (tokens.map Token.toDocument)

end TokenListing

namespace FrameListing

/-- The frames of a file. -/
def frames (settings : FrameListing) (bytes : List UInt8) : Except Fault (List Frame) :=
  match Frame.stream settings.mostFrames bytes.toArray with
  | (frames, none) => .ok frames
  | (_, some fault) => .error fault

/-- The counts in one line. -/
def countsLine (frames : List Frame) : String :=
  let payloadBytes := frames.foldr (fun frame total => frame.payload.length + total) 0
  s!"frames={frames.length}, payload_bytes={payloadBytes}\n"

/-- The frames as one array, or their counts. -/
def output (settings : FrameListing) (frames : List Frame) : String :=
  if settings.isSummary then countsLine frames else listing (frames.map Frame.toDocument)

end FrameListing

/-- A text of which only both ends are shown when it is long. -/
def shorten (text : String) : String :=
  let chars := text.toList
  if chars.length ≤ 50 then text
  else String.ofList (chars.take 25) ++ "..." ++ String.ofList (chars.drop (chars.length - 24))

/-- What is said about a refused field with a number in it. -/
def refusedNumber (n : Int) (fault : FieldFault) : String :=
  "\n".intercalate fault.path ++ "\n  " ++ fault.cause.message ++ " [type=" ++ fault.cause.code
    ++ ", input_value=" ++ shorten (toString n) ++ ", input_type=int]"

namespace Command

/-- What a command gives out. -/
def output (bytes : List UInt8) : Command → Except Fault String
  | tokens listing => listing.output <$> listing.tokens bytes
  | frames listing => listing.output <$> listing.frames bytes

/-- What the command complains about; nothing if the failure is not its own. Of its settings only
the number of tokens can be refused. -/
def complaint? : Command → Fault → Option String
  | _, .parse failure => some failure.message
  | tokens listing, .invalidFields faults =>
    some (s!"{faults.length} validation error for LexerConfig\n"
      ++ "\n".intercalate (faults.map (refusedNumber (listing.mostTokens.getD 0))))
  | _, _ => none

/-- Carries the command out. -/
def report (command : Command) (bytes : List UInt8) : Except Fault Report :=
  match command.output bytes with
  | .ok output => .ok { code := 0, output }
  | .error fault =>
    match command.complaint? fault with
    | some text => .ok (.ofComplaint text)
    | none => .error fault

end Command

/-- Carries a request out on what its file holds. -/
def Request.report (request : Request) (content : Except FileFault (List UInt8)) :
    Except Fault Report :=
  match content with
  | .ok bytes => request.command.report bytes
  | .error cause => .error (.unreadable cause (plainPath request.file))

/-- Carries a command line out on the files that `look` finds. -/
def run (look : String → Except FileFault (List UInt8)) (arguments : List String) :
    Except Exit (Except Fault Report) := do
  let request ← Request.read arguments
  return request.report (look (plainPath request.file))

end Scanning.CommandLine
