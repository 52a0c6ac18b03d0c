import EscapeAudit.Output.Split
import EscapeAudit.RuleSet

/-!
# Judging a leaf

A leaf is judged by the look of its tokens.  Arithmetic in scope makes it a number.  Else its
first token decides: a call is safe when its function is, a literal with variables is not, a
constant or a cast is.  A variable alone is not safe, and a variable with member accesses is
judged by the last member in scope.  Any other beginning is not judged.
-/

namespace EscapeAudit

/-- Why a leaf needs no escaping. -/
inductive SafeReason where
  /-- Its value is a number. -/
  | numeric
  /-- It calls a function whose result is safe. -/
  | allowedFunction
  /-- Its last member escapes. -/
  | alreadyEscaped
  /-- It is a constant or a cast. -/
  | constant
  /-- Its shape is not judged. -/
  | unrecognized
  deriving DecidableEq, Repr

/-- The judgement of a leaf. -/
inductive Verdict where
  /-- It needs no escaping. -/
  | safe (reason : SafeReason)
  /-- It needs escaping, and the anchor is the token that names the output. -/
  | unescaped (anchor : Nat)
  /-- A token it should have is missing. -/
  | skipped
  deriving DecidableEq, Repr

/-- The name of a reason. -/
def SafeReason.name : SafeReason → String
  | numeric => "Numeric"
  | allowedFunction => "AllowedFunction"
  | alreadyEscaped => "AlreadyEscaped"
  | constant => "Constant"
  | unrecognized => "Unrecognized"

/-- The text of a verdict in the journal. -/
def Verdict.describe : Verdict → String
  | safe reason => s!"Safe({reason.name})"
  | unescaped anchor => s!"Unescaped \x7b anchor: {anchor} \x7d"
  | skipped => "Skipped"

namespace Stream

/-- Whether a kind can be the member behind `->`. -/
def isMember : Kind → Bool
  | .identifier | .variable => true
  | _ => false

/-- Judges a leaf that begins with a variable. -/
def judgeVariable (s : Stream) (rules : RuleSet) (l : Leaf) : Verdict :=
  match s.lastInScope Kind.isMemberAccess ⟨l.first, l.range.stop⟩ with
  | none => .unescaped l.first
  | some operator =>
    match s.findNext isMember (operator + 1) l.range.stop with
    | none => .skipped
    | some member =>
      if s.kind? member == some .identifier && rules.isAllowedMethod (s.text member) then
        .safe .alreadyEscaped
      else .unescaped member

/-- Judges a leaf that begins with a bare name.  A backslash in front does not matter. -/
def judgeCall (s : Stream) (rules : RuleSet) (l : Leaf) : Verdict :=
  if rules.isAllowedFunction (Text.dropLeadingChar '\\' (s.text l.first)) then
    .safe .allowedFunction
  else .unescaped l.first

/-- Judges a leaf. -/
def judge (s : Stream) (rules : RuleSet) (l : Leaf) : Verdict :=
  if (s.firstInScope Kind.isArithmetic l.range).isSome then .safe .numeric
  else
    match s.kind? l.first with
    | none => .skipped
    | some kind =>
      match kind.category with
      | .call => s.judgeCall rules l
      | .interpolatingLiteral => .unescaped l.first
      | .variable => s.judgeVariable rules l
      | .safeConstant => .safe .constant
      | .other => .safe .unrecognized

end Stream

end EscapeAudit
