import Scanning.Frame
import Scanning.Document
import Scanning.Lexer.Config
import Scanning.Lexer.Summary
import Scanning.Record.Raw

namespace Scanning

open Record (Raw Checked required optional)

namespace Lexer

/-- A comment prefix that shows something. -/
def readCommentPrefix (raw : Raw) : Except FieldCause String := do
  let text ← Record.readText raw
  if isBlankPrefix text then throw .blankCommentPrefix else return text

/-- The largest number of tokens, or none. -/
def readMaxTokens : Raw → Except FieldCause (Option Nat)
  | .null => .ok none
  | raw => (fun n => some n.toNat) <$> Record.readIntFrom 1 raw

/-- A configuration from its fields. Fields without a name here are ignored. -/
def Config.ofFields (fields : List (String × Raw)) : Checked Config :=
  let initial : Config := {}
  Checked.field (Checked.field (Checked.field (Checked.field (Checked.field (Checked.field
    (.ok Config.mk)
    (optional fields "keep_whitespace" initial.keepWhitespace Record.readBool))
    (optional fields "keep_comments" initial.keepComments Record.readBool))
    (optional fields "comment_prefix" initial.commentPrefix readCommentPrefix))
    (optional fields "punctuation" initial.punctuation Record.readText))
    (optional fields "quote_chars" initial.quoteChars Record.readText))
    (optional fields "max_tokens" initial.maxTokens readMaxTokens)

/-- A configuration as it is shown. -/
def Config.toDocument (config : Config) : Document := .object [
  ("keep_whitespace", .bool config.keepWhitespace),
  ("keep_comments", .bool config.keepComments),
  ("comment_prefix", .text config.commentPrefix),
  ("punctuation", .text config.punctuation),
  ("quote_chars", .text config.quoteChars),
  ("max_tokens", match config.maxTokens with
    | some most => .int most
    | none => .null)]

/-- A kind by its name. -/
def readTokenKind : Raw → Except FieldCause TokenKind
  | .text name =>
    match TokenKind.ofName? name with
    | some kind => .ok kind
    | none => .error .noTokenKind
  | _ => .error .noTokenKind

/-- A token from its fields. -/
def Token.ofFields (fields : List (String × Raw)) : Checked Token :=
  Checked.field (Checked.field (Checked.field (Checked.field
    (.ok Token.mk)
    (required fields "kind" readTokenKind))
    (required fields "text" Record.readText))
    (required fields "start" (Record.readIntFrom 0)))
    (required fields "end" (Record.readIntFrom 0))

/-- A token as it is shown. -/
def Token.toDocument (token : Token) : Document := .object [
  ("kind", .text token.kind.name),
  ("text", .text token.text),
  ("start", .int token.start),
  ("end", .int token.stop)]

/-- The numbers of each kind. A refused key is reported apart from a refused number. -/
def readCounts : List (String × Raw) → Checked (List (TokenKind × Int))
  | [] => .ok []
  | (name, raw) :: rest =>
    let kind : Checked TokenKind :=
      match readTokenKind (.text name) with
      | .ok kind => .ok kind
      | .error cause => .error [⟨["by_kind", name, "[key]"], cause⟩]
    let count : Checked Int :=
      match Record.readInt raw with
      | .ok n => .ok n
      | .error cause => .error [⟨["by_kind", name], cause⟩]
    Checked.field (Checked.field (Checked.field
      (.ok fun kind count counts => (kind, count) :: counts) kind) count) (readCounts rest)

/-- The field of numbers by kind. -/
def readByKind (fields : List (String × Raw)) : Checked (List (TokenKind × Int)) :=
  match fields.lookup "by_kind" with
  | some (.object counts) => readCounts counts
  | some _ => .error [⟨["by_kind"], .notObject⟩]
  | none => .ok []

/-- A summary from its fields. -/
def Summary.ofFields (fields : List (String × Raw)) : Checked Summary :=
  Checked.field (Checked.field
    (.ok Summary.mk)
    (optional fields "tokens" 0 (Record.readIntFrom 0)))
    (readByKind fields)

/-- Counts as they are shown. -/
def Summary.toDocument (summary : Summary) : Document := .object [
  ("tokens", .int summary.tokens),
  ("by_kind", .object (summary.byKind.map fun (kind, count) => (kind.name, .int count)))]

end Lexer

namespace Frame

/-- A frame from its fields. -/
def ofFields (fields : List (String × Raw)) : Checked Frame :=
  Checked.field (Checked.field (Checked.field
    (.ok fun tag offset payload => ⟨tag.toNat, offset.toNat, payload⟩)
    (required fields "tag" readTag))
    (required fields "offset" readOffset))
    (optional fields "payload" [] Record.readBytes)

/-- A frame as it is shown. -/
def toDocument (frame : Frame) : Document := .object [
  ("tag", .int frame.tag),
  ("offset", .int frame.offset),
  ("payload", .text (Text.hexBytes frame.payload))]

end Frame

end Scanning
