import EscapeAudit.Token.Stream

/-!
# Searching a stream

The first and the last index of an interval at which a test holds, and the searches of a stream by
the kinds of its tokens.  An interval `[lo, hi)` with `hi ≤ lo` is empty.
-/

namespace EscapeAudit

/-- The least index at which the test holds among the `n` indices from `i` on. -/
def firstFrom (test : Nat → Bool) : (i n : Nat) → Option Nat
  | _, 0 => none
  | i, n + 1 => if test i then some i else firstFrom test (i + 1) n

/-- The least index of `[lo, hi)` at which the test holds. -/
def firstIn (test : Nat → Bool) (lo hi : Nat) : Option Nat :=
  firstFrom test lo (hi - lo)

/-- The greatest index at which the test holds among the `n` indices from `lo` on. -/
def lastFrom (test : Nat → Bool) (lo : Nat) : (n : Nat) → Option Nat
  | 0 => none
  | n + 1 => if test (lo + n) then some (lo + n) else lastFrom test lo n

/-- The greatest index of `[lo, hi)` at which the test holds. -/
def lastIn (test : Nat → Bool) (lo hi : Nat) : Option Nat :=
  lastFrom test lo (hi - lo)

namespace Stream

/-- The first token of `[start, stop)` whose kind passes the test. -/
def findNext (s : Stream) (test : Kind → Bool) (start stop : Nat) : Option Nat :=
  firstIn (s.holds test) start (min stop s.size)

/-- The last token whose kind passes the test, from `floor` up to and including `start`. -/
def findPrevious (s : Stream) (test : Kind → Bool) (start floor : Nat) : Option Nat :=
  lastIn (s.holds test) floor (min (start + 1) s.size)

/-- The kinds that end a statement. -/
def endsStatement : Kind → Bool
  | .semicolon | .closeTag => true
  | _ => false

/-- The end of the statement opened at `entry`: the next `;` or close tag, or the end of the
stream. -/
def statementEnd (s : Stream) (entry : Nat) : Nat :=
  (s.findNext endsStatement entry s.size).getD s.size

/-- The tokens that open an output statement. -/
def entryPoints (s : Stream) : List Nat :=
  (List.range s.size).filter (s.holds Kind.isEntryPoint)

end Stream

end EscapeAudit
