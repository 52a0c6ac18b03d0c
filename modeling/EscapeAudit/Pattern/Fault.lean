import EscapeAudit.Pattern.Place
import EscapeAudit.Text.Basic

/-!
# Faults of patterns

The text of a pattern can be wrong in many ways.  A fault names the way and the piece of the text
that is wrong, and for something given twice also the piece where it was given first.  The message
shows the text with these pieces marked below it.
-/

namespace EscapeAudit

/-- What can be wrong with the text of a pattern. -/
inductive PatternProblem where
  /-- An escape in brackets stands for no characters. -/
  | classEscapeInvalid
  /-- A range goes backward. -/
  | classRangeInvalid
  /-- An end of a range is no character. -/
  | classRangeLiteral
  /-- A bracket is not closed. -/
  | classUnclosed
  /-- A number is too large. -/
  | decimalInvalid
  /-- A number in braces has no digits. -/
  | hexEmpty
  /-- A number stands for no character. -/
  | hexInvalid
  /-- A digit is no hexadecimal digit. -/
  | hexInvalidDigit
  /-- The text ends inside an escape. -/
  | escapeUnexpectedEnd
  /-- Nothing is known about an escape. -/
  | escapeUnrecognized
  /-- A minus sign has no flag behind it. -/
  | flagDanglingNegation
  /-- A flag is given twice. -/
  | flagDuplicate
  /-- A minus sign is given twice. -/
  | flagRepeatedNegation
  /-- The text ends among flags. -/
  | flagUnexpectedEnd
  /-- Nothing is known about a flag. -/
  | flagUnrecognized
  /-- Two groups have one name. -/
  | groupNameDuplicate
  /-- A name has no characters. -/
  | groupNameEmpty
  /-- A character cannot stand in a name. -/
  | groupNameInvalid
  /-- The text ends inside a name. -/
  | groupNameUnexpectedEnd
  /-- A group is not closed. -/
  | groupUnclosed
  /-- A group is closed that was not opened. -/
  | groupUnopened
  /-- Groups and brackets are nested too deep. -/
  | nestLimitExceeded (limit : Nat)
  /-- The bounds of a repetition are in the wrong order. -/
  | repetitionCountInvalid
  /-- A bound of a repetition has no digits. -/
  | repetitionCountDecimalEmpty
  /-- The bounds of a repetition are not closed. -/
  | repetitionCountUnclosed
  /-- There is nothing to repeat. -/
  | repetitionMissing
  /-- The name of a boundary is not closed. -/
  | boundaryUnclosed
  /-- Nothing is known about a boundary. -/
  | boundaryUnrecognized
  /-- The text ends behind the brace of a boundary. -/
  | boundaryUnexpectedEnd
  /-- The name of a property is an escape. -/
  | propertyInvalid
  /-- A group is asked for again. -/
  | backreference
  /-- A group looks around. -/
  | lookAround
  /-- A character beyond ASCII stands where none can. -/
  | unicodeNotAllowed
  /-- The pattern fits bytes that are no text. -/
  | invalidText
  /-- Nothing is known about a property. -/
  | propertyNotFound
  /-- Nothing is known about the value of a property. -/
  | propertyValueNotFound
  deriving DecidableEq, Repr

/-- The text of a problem. -/
def PatternProblem.message : PatternProblem → String
  | classEscapeInvalid => "invalid escape sequence found in character class"
  | classRangeInvalid => "invalid character class range, the start must be <= the end"
  | classRangeLiteral => "invalid range boundary, must be a literal"
  | classUnclosed => "unclosed character class"
  | decimalInvalid => "decimal literal invalid"
  | hexEmpty => "hexadecimal literal empty"
  | hexInvalid => "hexadecimal literal is not a Unicode scalar value"
  | hexInvalidDigit => "invalid hexadecimal digit"
  | escapeUnexpectedEnd => "incomplete escape sequence, reached end of pattern prematurely"
  | escapeUnrecognized => "unrecognized escape sequence"
  | flagDanglingNegation => "dangling flag negation operator"
  | flagDuplicate => "duplicate flag"
  | flagRepeatedNegation => "flag negation operator repeated"
  | flagUnexpectedEnd => "expected flag but got end of regex"
  | flagUnrecognized => "unrecognized flag"
  | groupNameDuplicate => "duplicate capture group name"
  | groupNameEmpty => "empty capture group name"
  | groupNameInvalid => "invalid capture group character"
  | groupNameUnexpectedEnd => "unclosed capture group name"
  | groupUnclosed => "unclosed group"
  | groupUnopened => "unopened group"
  | nestLimitExceeded limit =>
    s!"exceed the maximum number of nested parentheses/brackets ({limit})"
  | repetitionCountInvalid => "invalid repetition count range, the start must be <= the end"
  | repetitionCountDecimalEmpty => "repetition quantifier expects a valid decimal"
  | repetitionCountUnclosed => "unclosed counted repetition"
  | repetitionMissing => "repetition operator missing expression"
  | boundaryUnclosed =>
    "special word boundary assertion is either unclosed or contains an invalid character"
  | boundaryUnrecognized =>
    "unrecognized special word boundary assertion, valid choices are: start, end, start-half " ++
    "or end-half"
  | boundaryUnexpectedEnd =>
    "found either the beginning of a special word boundary or a bounded repetition on a \\b with " ++
    "an opening brace, but no closing brace"
  | propertyInvalid => "invalid Unicode character class"
  | backreference => "backreferences are not supported"
  | lookAround => "look-around, including look-ahead and look-behind, is not supported"
  | unicodeNotAllowed => "Unicode not allowed here"
  | invalidText => "pattern can match invalid UTF-8"
  | propertyNotFound => "Unicode property not found"
  | propertyValueNotFound => "Unicode property value not found"

/-- A problem with the piece of the text that has it. -/
structure PatternFault where
  /-- What is wrong. -/
  problem : PatternProblem
  /-- The piece that is wrong. -/
  span : PatternSpan
  /-- The piece where the same was given first. -/
  earlier : Option PatternSpan
  deriving DecidableEq, Repr

namespace PatternFault

/-- The pieces to mark, in the order of the text. -/
def spans (f : PatternFault) : List PatternSpan := f.earlier.toList ++ [f.span]

/-- The pieces to mark that lie on one line. -/
def shortSpans (f : PatternFault) : List PatternSpan :=
  f.spans.filter fun s => s.start.line == s.stop.line

/-- The pieces to mark that go over several lines. -/
def longSpans (f : PatternFault) : List PatternSpan :=
  f.spans.filter fun s => s.start.line != s.stop.line

/-- Marks pieces of one line below it, behind what is marked before. -/
def marks : (before : String) → List PatternSpan → String
  | before, [] => before
  | before, s :: rest =>
    let blanks := Text.replicate (s.start.column - 1 - before.length) ' '
    let carets := Text.replicate (max 1 (s.stop.column - s.start.column)) '^'
    marks (before ++ blanks ++ carets) rest

/-- The line with the marks for the line with the given number, if it has some. -/
def markLine (f : PatternFault) (margin line : Nat) : String :=
  match f.shortSpans.filter fun s => s.start.line == line with
  | [] => ""
  | spans => Text.replicate margin ' ' ++ marks "" spans ++ "\n"

/-- The lines of a text.  A line feed at the end begins no line, and a carriage return before a
line feed belongs to the line end. -/
def linesOf (text : String) : List String :=
  let pieces := Text.splitAt '\n' text
  let inner := pieces.dropLast.map fun piece =>
    match piece.toList.reverse with
    | '\r' :: cs => String.ofList cs.reverse
    | _ => piece
  match pieces.getLast? with
  | some "" | none => inner
  | some last => inner ++ [last]

/-- The text of a pattern with its marks, each line behind a margin of its number. -/
def annotated (f : PatternFault) (text : String) : String :=
  let lines := linesOf text
  let count := lines.length + (if text.toList.getLast? == some '\n' then 1 else 0)
  let width := if count ≤ 1 then 0 else (toString count).length
  let margin := if width == 0 then 4 else width + 2
  Text.join ((List.range lines.length).zip lines |>.map fun (i, line) =>
    let number := toString (i + 1)
    let lead :=
      if width == 0 then "    " else Text.replicate (width - number.length) ' ' ++ number ++ ": "
    lead ++ line ++ "\n" ++ f.markLine margin (i + 1))

/-- The note on a piece that goes over several lines. -/
def longNote (s : PatternSpan) : String :=
  s!"on line {s.start.line} (column {s.start.column}) through line {s.stop.line} " ++
  s!"(column {s.stop.column - 1})"

/-- The message of a fault in the text of a pattern. -/
def message (f : PatternFault) (text : String) : String :=
  if text.toList.contains '\n' then
    let divider := Text.replicate 79 '~' ++ "\n"
    let notes := match f.longSpans with
      | [] => ""
      | spans => Text.joinWith "\n" (spans.map longNote) ++ "\n"
    "regex parse error:\n" ++ divider ++ f.annotated text ++ divider ++ notes ++
    "error: " ++ f.problem.message
  else "regex parse error:\n" ++ f.annotated text ++ "error: " ++ f.problem.message

end PatternFault

end EscapeAudit
