import Scanning.CommandLine.Log
import Scanning.CommandLine.Report

namespace Scanning.CommandLine

/-- What stands in a file. Faults other than those of the path are the system's own. -/
def contentOf (path : String) : IO (Except FileFault (List UInt8)) := do
  if path.contains '\x00' then return .error .nulInPath
  try
    return .ok (← IO.FS.readBinFile path).toList
  catch
    | .noFileOrDirectory .. => return .error .missing
    | .inappropriateType _ code _ =>
      return .error (if code == 20 then .notDirectory else .directory)
    | error => throw error

/-- What can be asked for. -/
def usage : String :=
  "usage: seqcursor [-h] [-v] (tokens [--keep-whitespace] [--keep-comments] [--max-tokens N]"
    ++ " | frames [--max-frames N]) [--summary] FILE"

end Scanning.CommandLine

open Scanning CommandLine

/-- Reads the file that the command line names and shows the report. -/
def main (arguments : List String) : IO UInt32 := do
  match Request.read arguments with
  | .error exit =>
    (if exit = .help then IO.println usage else IO.eprintln usage)
    return UInt32.ofNat exit.code
  | .ok request =>
    match request.report (← contentOf (plainPath request.file)) with
    | .ok report =>
      IO.print report.output
      IO.eprint (report.complaint.getD "")
      return UInt32.ofNat report.code
    | .error fault =>
      IO.eprintln fault.message
      return 1
