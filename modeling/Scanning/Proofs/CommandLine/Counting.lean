import Scanning.Proofs.CommandLine.Stages
import Scanning.Proofs.CommandLine.Switches
import Scanning.Proofs.Frame.Cutting
import Scanning.Proofs.Lexer.Counting
import Scanning.Proofs.Move.Bounds

namespace Scanning.CommandLine

open Lexer (Summary Token)

/-- The settings of a token listing, with counts instead of the list. -/
def TokenListing.counting (settings : TokenListing) : TokenListing :=
  { settings with isSummary := true }

/-- The settings of a frame listing, with counts instead of the list. -/
def FrameListing.counting (settings : FrameListing) : FrameListing :=
  { settings with isSummary := true }

/-- What a command is called by. -/
def Command.name : Command → String
  | tokens _ => "tokens"
  | frames _ => "frames"

/-- The command that counts what this one lists. -/
def Command.counting : Command → Command
  | tokens settings => tokens settings.counting
  | frames settings => frames settings.counting

/-- The request for the counts instead of the list. -/
def Request.counting (request : Request) : Request :=
  { request with command := request.command.counting }

variable {look : String → Except FileFault (List UInt8)} {arguments arguments' : List String}
  {request : Request} {bytes : List UInt8} {output : String}

end Scanning.CommandLine
