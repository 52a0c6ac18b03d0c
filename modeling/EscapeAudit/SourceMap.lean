import EscapeAudit.Position
import EscapeAudit.Text.Basic

/-!
# Lines of a template

A source map is an index of the lines of a template, for the snippets of a report.  It holds the byte
at which each line begins.  A line ends at a line feed, and its text leaves out the carriage returns
at its end.  A snippet shows the line on which a span begins, with its number in a gutter and carets
under the span.
-/

namespace EscapeAudit

/-- A template with an index of its lines. -/
structure SourceMap where
  /-- The template. -/
  source : String
  /-- The byte at which each line begins. -/
  lineStarts : Array Nat
  deriving Inhabited

namespace SourceMap

/-- The line without the carriage returns at its end. -/
def trimReturns (line : String) : String :=
  String.ofList ((line.toList.reverse.dropWhile (· == '\r')).reverse)

/-- The bytes behind the line feeds of a text that stands at a byte, behind those found before. -/
def addStarts : List Char → (offset : Nat) → (found : Array Nat) → Array Nat
  | [], _, found => found
  | c :: cs, offset, found =>
    addStarts cs (offset + c.utf8Size) (if c == '\n' then found.push (offset + 1) else found)

/-- The source map of a template. -/
def ofSource (source : String) : SourceMap :=
  ⟨source, addStarts source.toList 0 #[0]⟩

/-- The number of lines.  A template that ends in a line feed has an empty last line. -/
def lineCount (m : SourceMap) : Nat := m.lineStarts.size

/-- The byte at which a line ends, counted from 1: the line feed behind it or the end of the
template. -/
def lineEnd (m : SourceMap) (number : Nat) : Nat :=
  match m.lineStarts[number]? with
  | some next => next - 1
  | none => m.source.utf8ByteSize

/-- The text of a line, counted from 1. -/
def line? (m : SourceMap) (number : Nat) : Option String :=
  if number == 0 then none
  else m.lineStarts[number - 1]?.map fun start =>
    trimReturns (String.Pos.Raw.extract m.source ⟨start⟩ ⟨m.lineEnd number⟩)

/-- The number of carets under a span that begins on the given line: its width there, at least 1. -/
def caretCount (line : String) (span : Span) : Nat :=
  let width :=
    if span.start.line == span.stop.line then span.stop.column - span.start.column
    else line.length - (span.start.column - 1)
  max width 1

/-- The line on which a span begins with carets under the span, or nothing when the line does not
exist. -/
def snippet (m : SourceMap) (span : Span) : String :=
  match m.line? span.start.line with
  | none => ""
  | some line =>
    let number := toString span.start.line
    let gutter := Text.replicate number.length ' '
    let indent := Text.replicate (span.start.column - 1) ' '
    let carets := Text.replicate (caretCount line span) '^'
    s!"{gutter} |\n{number} | {line}\n{gutter} | {indent}{carets}\n"

end SourceMap

end EscapeAudit
