namespace Scanning.CommandLine

/-- How grave an entry of the log is. The log shows the entries that are grave enough. -/
inductive Severity where
  | debug
  | info
  | warning
  deriving DecidableEq, Repr

/-- The number by which severities are compared. -/
def Severity.rank : Severity → Nat
  | debug => 10
  | info => 20
  | warning => 30

/-- Warnings are always shown, information at verbosity one, everything from two on. -/
def Severity.ofVerbosity (verbosity : Int) : Severity :=
  if verbosity = 1 then .info else if 2 ≤ verbosity then .debug else .warning

/-- A log with its name, the least severity that is shown, and how many outlets show it. -/
structure Log where
  name : String
  threshold : Severity
  outlets : Nat
  deriving DecidableEq, Repr

/-- Sets the log up. The outlets of an earlier set-up give way to a single new one. -/
def Log.ofVerbosity (verbosity : Int) : Log := ⟨"seqcursor", .ofVerbosity verbosity, 1⟩

end Scanning.CommandLine
