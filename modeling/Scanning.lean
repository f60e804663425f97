import Scanning.CommandLine.Argument
import Scanning.CommandLine.File
import Scanning.CommandLine.Log
import Scanning.CommandLine.Report
import Scanning.CommandLine.Request
import Scanning.Cursor
import Scanning.Document
import Scanning.Fault
import Scanning.Frame
import Scanning.IndexSpace
import Scanning.Lexer.Config
import Scanning.Lexer.Lexeme
import Scanning.Lexer.Progress
import Scanning.Lexer.Scan
import Scanning.Lexer.Summary
import Scanning.Lexer.Token
import Scanning.Main
import Scanning.Move.Basic
import Scanning.Move.Operation
import Scanning.Move.Progress
import Scanning.Move.Tested
import Scanning.Pattern.Extent
import Scanning.Pattern.Match
import Scanning.Pattern.Reader
import Scanning.Pattern.Syntax
import Scanning.Proofs.Agreement.Basic
import Scanning.Proofs.Agreement.Run
import Scanning.Proofs.Agreement.Span
import Scanning.Proofs.CommandLine.Counting
import Scanning.Proofs.CommandLine.LineEnds
import Scanning.Proofs.CommandLine.Offsets
import Scanning.Proofs.CommandLine.Outcome
import Scanning.Proofs.CommandLine.Stages
import Scanning.Proofs.CommandLine.Switches
import Scanning.Proofs.Frame.Cutting
import Scanning.Proofs.Frame.Encoding
import Scanning.Proofs.Frame.Reading
import Scanning.Proofs.Frame.Stream
import Scanning.Proofs.Layout
import Scanning.Proofs.Layout.Broken
import Scanning.Proofs.Layout.Looking
import Scanning.Proofs.Layout.Offset
import Scanning.Proofs.Layout.Subject
import Scanning.Proofs.Layout.Taking
import Scanning.Proofs.Layout.Unfolding
import Scanning.Proofs.Lexer.Agreement
import Scanning.Proofs.Lexer.Bounds
import Scanning.Proofs.Lexer.Breaking
import Scanning.Proofs.Lexer.Commenting
import Scanning.Proofs.Lexer.Counting
import Scanning.Proofs.Lexer.Cutting
import Scanning.Proofs.Lexer.Ending
import Scanning.Proofs.Lexer.Escaping
import Scanning.Proofs.Lexer.Grammar
import Scanning.Proofs.Lexer.Joining
import Scanning.Proofs.Lexer.Locality
import Scanning.Proofs.Lexer.Malformed
import Scanning.Proofs.Lexer.Reading
import Scanning.Proofs.Lexer.Rounds
import Scanning.Proofs.Lexer.Selection
import Scanning.Proofs.Lexer.Tokenization
import Scanning.Proofs.Move.Bounds
import Scanning.Proofs.Move.Failure
import Scanning.Proofs.Move.Inspecting
import Scanning.Proofs.Move.Stepwise
import Scanning.Proofs.PrefixCode
import Scanning.Proofs.Record.Accepted
import Scanning.Proofs.ScalarView.Boundaries
import Scanning.Proofs.ScalarView.Broken
import Scanning.Proofs.ScalarView.Encoded
import Scanning.Proofs.ScalarView.Landing
import Scanning.Proofs.ScalarView.Layout
import Scanning.Proofs.ScalarView.Limit
import Scanning.Proofs.ScalarView.Pieces
import Scanning.Proofs.ScalarView.Popping
import Scanning.Proofs.ScalarView.Reading
import Scanning.Proofs.ScalarView.Scalar
import Scanning.Proofs.ScalarView.Steps
import Scanning.Proofs.ScalarView.Walk
import Scanning.Proofs.Session.Apart
import Scanning.Proofs.Session.Blocks
import Scanning.Proofs.Session.Bounds
import Scanning.Proofs.Session.Calls
import Scanning.Proofs.Session.Changes
import Scanning.Proofs.Session.Consumed
import Scanning.Proofs.Session.Deeds
import Scanning.Proofs.Session.Failure
import Scanning.Proofs.Session.Locality
import Scanning.Proofs.Session.Matching
import Scanning.Proofs.Session.Mirror
import Scanning.Proofs.Session.Pieces
import Scanning.Proofs.Session.Sharing
import Scanning.Proofs.Session.Steps
import Scanning.Proofs.Session.Tail
import Scanning.Proofs.Span.BigEndian
import Scanning.Proofs.Span.Codec
import Scanning.Proofs.Span.Desk
import Scanning.Proofs.Span.Failure
import Scanning.Proofs.Span.Fields
import Scanning.Proofs.Span.Formats
import Scanning.Proofs.Span.Holding
import Scanning.Proofs.Span.Integers
import Scanning.Proofs.Span.Lending
import Scanning.Proofs.Span.Looking
import Scanning.Proofs.Span.Padding
import Scanning.Proofs.Span.Safety
import Scanning.Proofs.Span.Taking
import Scanning.Proofs.Span.Twins
import Scanning.Proofs.Tail.Basic
import Scanning.Proofs.Tail.Lexer
import Scanning.Proofs.Tail.Subject
import Scanning.Proofs.Utf8.Decoding
import Scanning.Proofs.Utf8.Encoding
import Scanning.Proofs.Utf8.Offset
import Scanning.Record.Raw
import Scanning.Record.Shapes
import Scanning.ScalarView
import Scanning.Sequence
import Scanning.Session.Inspecting
import Scanning.Session.Judgement
import Scanning.Session.Matching
import Scanning.Session.Run
import Scanning.Session.Script
import Scanning.Span.Basic
import Scanning.Span.Cell
import Scanning.Span.Codec
import Scanning.Span.Progress
import Scanning.Span.Session
import Scanning.Subject
import Scanning.Text.Number
import Scanning.Text.Quoted
import Scanning.Unicode.Classes
import Scanning.Unicode.Folding
import Scanning.Unicode.Letters
import Scanning.Unicode.Numerals
import Scanning.Unicode.Printing
import Scanning.Utf8
import Scanning.Value
