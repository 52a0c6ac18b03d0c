import EscapeAudit.Event.Journal
import EscapeAudit.Lexer.Metrics
import EscapeAudit.Lexer.Scan

/-!
# From a template to its tokens

`tokenize` gives the stream of a template, or the error at the place where scanning stopped.  The
entries say what happened for the journal.
-/

namespace EscapeAudit

/-- A template that was cut into tokens as far as possible. -/
structure Lexed where
  /-- The tokens found. -/
  stream : Stream
  /-- Counts over the tokens found. -/
  metrics : Metrics
  /-- Why scanning stopped early. -/
  fault : Option Fault
  deriving DecidableEq, Repr

namespace Lexed

/-- What a scan found. -/
def ofScan (scan : Lexer.Scan) : Lexed :=
  ⟨.ofLexemes scan.lexemes.toList, .ofLexemes scan.lexemes, scan.fault⟩

/-- Cuts a template into tokens. -/
def ofSource (source : String) : Lexed :=
  ofScan (Lexer.scan source)

/-- The place where scanning stopped, behind the text of the tokens found. -/
def place (l : Lexed) : Position := Position.start.advanceText l.stream.source

/-- The error of a template that could not be cut to its end. -/
def error? (l : Lexed) : Option LexError :=
  l.fault.map (Fault.locate l.place)

/-- The stream, or the error. -/
def result (l : Lexed) : Except LexError Stream :=
  match l.error? with
  | some e => .error e
  | none => .ok l.stream

/-- The note about a template that was cut to its end. -/
def completion (settings : LexSettings) (label : String) (m : Metrics) : Note :=
  if settings.detailedMetrics then
    .success .tokenized "Tokenization completed with metrics"
      [("file", .text label), ("tokens", .nat m.tokens), ("code_regions", .nat m.codeRegions),
       ("entry_points", .nat m.entryPoints), ("inline_html_bytes", .nat m.markupBytes),
       ("comments", .nat m.comments), ("max_comment_length", .nat m.longestComment),
       ("max_string_length", .nat m.largestString)]
  else
    .success .tokenized "Tokenization completed" [("file", .text label), ("tokens", .nat m.tokens)]

/-- The note about an error. -/
def failure (settings : LexSettings) (label : String) (place : Position) (e : LexError) : Note :=
  let note := Note.error e.code e.message [("file", .text label)]
  if settings.positionsInErrors then { note with span := some ⟨place, place⟩ } else note

/-- What the journal is told about cutting a template with a label. -/
def entries (settings : LexSettings) (label source : String) (l : Lexed) : List Entry :=
  let beginning := Note.debug "Starting lexical analysis"
    [("file", .text label), ("bytes", .nat source.utf8ByteSize),
     ("max_tokens_allowed", .nat Limits.tokenCount)]
  match l.error? with
  | some e => [.note beginning, .note (failure settings label l.place e)]
  | none => [.note beginning, .note (completion settings label l.metrics)]

end Lexed

/-- The stream of a template, or why it has none. -/
def tokenize (source : String) : Except LexError Stream :=
  (Lexed.ofSource source).result

end EscapeAudit
