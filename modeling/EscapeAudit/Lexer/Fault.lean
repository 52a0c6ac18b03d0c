import EscapeAudit.Event.Code
import EscapeAudit.Limits
import EscapeAudit.Position

/-!
# Faults of a template

Why a template cannot be cut into tokens.  A fault is a cause without a place.  It always arises
at the end of the tokens found so far, and an error is a fault with that place.
-/

namespace EscapeAudit

/-- Why scanning stopped. -/
inductive Fault where
  /-- A string literal is never closed. -/
  | unterminatedString
  /-- A block comment is never closed. -/
  | unterminatedComment
  /-- A heredoc is never closed. -/
  | unterminatedHeredoc (label : String)
  /-- A string literal or heredoc body has more bytes than allowed. -/
  | stringTooLarge (size : Nat)
  /-- A comment has more characters than allowed. -/
  | commentTooLong (length : Nat)
  /-- There are more tokens than allowed. -/
  | tooManyTokens (count : Nat)
  deriving DecidableEq, Repr

/-- What is reported of a template that cannot be cut into tokens. -/
inductive LexError where
  /-- A string literal is never closed. -/
  | unterminatedString (line column : Nat)
  /-- A block comment is never closed. -/
  | unterminatedComment (line column : Nat)
  /-- A heredoc is never closed. -/
  | unterminatedHeredoc (label : String) (line : Nat)
  /-- A string literal or heredoc body has more bytes than allowed. -/
  | stringTooLarge (size : Nat)
  /-- A comment has more characters than allowed. -/
  | commentTooLong (length : Nat)
  /-- There are more tokens than allowed. -/
  | tooManyTokens (count : Nat)
  deriving DecidableEq, Repr

/-- The error of a fault at a place. -/
def Fault.locate (place : Position) : Fault → LexError
  | unterminatedString => .unterminatedString place.line place.column
  | unterminatedComment => .unterminatedComment place.line place.column
  | unterminatedHeredoc label => .unterminatedHeredoc label place.line
  | stringTooLarge size => .stringTooLarge size
  | commentTooLong length => .commentTooLong length
  | tooManyTokens count => .tooManyTokens count

namespace LexError

/-- The code of an error. -/
def code : LexError → Code
  | unterminatedString .. => .unterminatedString
  | unterminatedComment .. => .unterminatedComment
  | unterminatedHeredoc .. => .unterminatedHeredoc
  | stringTooLarge _ => .stringTooLarge
  | commentTooLong _ => .commentTooLong
  | tooManyTokens _ => .tooManyTokens

/-- The text of an error. -/
def message : LexError → String
  | unterminatedString line column =>
    s!"Unterminated string literal starting at line {line}, column {column}"
  | unterminatedComment line column =>
    s!"Unterminated comment starting at line {line}, column {column}"
  | unterminatedHeredoc label line => s!"Heredoc '{label}' opened at line {line} is never closed"
  | stringTooLarge size => s!"String too large: {size} bytes (max {Limits.stringSize})"
  | commentTooLong length =>
    s!"Comment too long: {length} characters (max {Limits.commentLength})"
  | tooManyTokens count => s!"Too many tokens: {count} (max {Limits.tokenCount})"

end LexError

end EscapeAudit
