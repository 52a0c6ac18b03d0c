import EscapeAudit.Pattern.Leading
import EscapeAudit.Pattern.Machine
import EscapeAudit.Pattern.Meaning
import EscapeAudit.Pattern.Written

/-!
# Patterns from their texts

A pattern is read from its text.  The machines that look for it must not be too large, unless none
is needed.
-/

namespace EscapeAudit.Pattern

/-- Reads a pattern, or tells what is wrong with its text. -/
def ofText (text : String) : Except String (Pattern Test) :=
  match (do (← PatternNode.ofText text).meaning.run .initial) with
  | .error fault => .error (fault.message text)
  | .ok (p, _) =>
    if p.hasMachines || p.isTexts then .ok p
    else .error s!"Compiled regex exceeds size limit of {Machine.limit} bytes."

end EscapeAudit.Pattern
