import EscapeAudit.Edit.Basic
import EscapeAudit.Event.Journal
import EscapeAudit.Token.Stream

/-!
# Diagnostics

A diagnostic is a concern about one token of a template.  A finding is a diagnostic with the
changeset that would settle it.  Two findings can be settled by one changeset, and then only the
first has it.
-/

namespace EscapeAudit

/-- What a template can be told. -/
inductive Concern where
  /-- An output is not escaped. -/
  | unescaped
  /-- An output is not escaped, and a comment near it tries to exempt it. -/
  | disallowedComment
  /-- An escaping method is called through the block. -/
  | deprecatedEscape
  /-- The header does not declare the escaper. -/
  | missingDeclaration
  deriving DecidableEq, Repr

namespace Concern

/-- The short name in reports. -/
def sniff : Concern → String
  | unescaped => "FoundUnescaped"
  | disallowedComment => "FoundNotAllowed"
  | deprecatedEscape => "DeprecatedEscape"
  | missingDeclaration => "MissingVarAnnotation"

/-- The long name in reports. -/
def title : Concern → String
  | unescaped => "UnescapedDetected"
  | disallowedComment => "UnescapedDisallowedAnnotation"
  | deprecatedEscape => "DeprecatedEscapeAlias"
  | missingDeclaration => "MissingContextAnnotation"

/-- The code of its events. -/
def code : Concern → Code
  | unescaped => .unescapedOutput
  | disallowedComment => .disallowedComment
  | deprecatedEscape => .deprecatedEscape
  | missingDeclaration => .missingDeclaration

/-- The text for the reader. -/
def message : Concern → String
  | unescaped | disallowedComment => "Unescaped output detected."
  | deprecatedEscape => "Deprecated escape detected"
  | missingDeclaration => "Missing var annotation"

/-- All concerns. -/
def all : List Concern := [unescaped, disallowedComment, deprecatedEscape, missingDeclaration]

end Concern

/-- A concern about one token. -/
structure Diagnostic where
  /-- The concern. -/
  concern : Concern
  /-- The token. -/
  token : Nat
  /-- Where the token stands. -/
  span : Span
  deriving DecidableEq, Repr

namespace Diagnostic

/-- A concern about a token of a stream. -/
def at_ (s : Stream) (concern : Concern) (token : Nat) : Diagnostic :=
  ⟨concern, token, s.span token⟩

/-- The text for the reader. -/
def message (d : Diagnostic) : String := d.concern.message

/-- Whether there is a way to settle it.  There is one for every concern. -/
def fixable (_ : Diagnostic) : Bool := true

/-- The event that is recorded for the file. -/
def event (d : Diagnostic) : Event :=
  ((Event.warning d.concern.code d.message).withSpan d.span).withContext "sniff" d.concern.sniff

/-- The number of diagnostics with a concern. -/
def count (concern : Concern) (ds : List Diagnostic) : Nat :=
  ds.countP (·.concern == concern)

end Diagnostic

/-- A diagnostic with the changeset that would settle it. -/
structure Finding where
  /-- The diagnostic. -/
  diagnostic : Diagnostic
  /-- The changeset, unless an earlier finding has it. -/
  fix : Option Changeset
  deriving DecidableEq, Repr

/-- What the journal is told about a finding. -/
def Finding.note (f : Finding) : Note :=
  .debug "Rule finding"
    [("sniff", .text f.diagnostic.concern.sniff), ("at", .text f.diagnostic.span.start.render)]

end EscapeAudit
