import EscapeAudit.RuleSet
import EscapeAudit.Token.Search

/-!
# Exemptions

A comment near an output statement can exempt it.  An `echo` looks back for the last comment
behind the open tag before it, and a `<?=` looks forward for the first comment before its close
tag.  A `print` has no place for a comment.
-/

namespace EscapeAudit

/-- What the comment near a statement says. -/
inductive Gate where
  /-- There is no comment. -/
  | absent
  /-- The comment holds a marker, so the statement is exempt. -/
  | suppressed (comment : Nat)
  /-- The comment holds no marker. -/
  | disallowed (comment : Nat)
  deriving DecidableEq, Repr

namespace Stream

/-- The comment near the statement that a token opens. -/
def commentNear? (s : Stream) (entry : Nat) : Option Nat :=
  match s.kind? entry with
  | some .echo =>
    let opening := (s.findPrevious (· == .openTag) entry 0).getD 0
    s.findPrevious (· == .comment) entry opening
  | some .openTagWithEcho =>
    let closing := (s.findNext (· == .closeTag) entry s.size).getD s.size
    s.findNext (· == .comment) entry closing
  | _ => none

/-- What the comment near the statement says. -/
def gate (s : Stream) (rules : RuleSet) (entry : Nat) : Gate :=
  match s.commentNear? entry with
  | none => .absent
  | some comment =>
    if rules.isExemption (s.text comment) then .suppressed comment
    else .disallowed comment

end Stream

end EscapeAudit
