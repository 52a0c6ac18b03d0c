import EscapeAudit.Token.Search

/-!
# Ranges and scope

A range is an interval of token indices.  A token of a range is in scope when no pair of
parentheses that opens inside the range stands around it.  `inScope` walks over a range and jumps
behind the partner of every opening parenthesis, so it sees the tokens in scope and no others.  An
opening parenthesis without a partner is a token like any other.
-/

namespace EscapeAudit

/-- The token indices from `start` up to `stop`. -/
structure Range where
  /-- The first index. -/
  start : Nat
  /-- The index behind the last. -/
  stop : Nat
  deriving DecidableEq, Repr, Inhabited

namespace Range

/-- Whether a range has no index. -/
def isEmpty (r : Range) : Bool := r.stop ≤ r.start

/-- `[start, stop)`. -/
def render (r : Range) : String := s!"[{r.start}, {r.stop})"

/-- The pieces of a range between indices, which are given in increasing order. -/
def cutAt (r : Range) (cuts : Array Nat) : List Range :=
  let (start, pieces) := cuts.foldl
    (fun (start, pieces) cut => (cut + 1, pieces.push ⟨start, cut⟩)) (r.start, #[])
  (pieces.push ⟨start, r.stop⟩).toList

end Range

namespace Stream

/-- The index behind a token, and behind the whole pair for an opening parenthesis with a partner
further on. -/
def skip (s : Stream) (i : Nat) : Nat :=
  match s.kind? i, s.partner? i with
  | some .openParenthesis, some j => if i < j then j + 1 else i + 1
  | _, _ => i + 1

theorem lt_skip (s : Stream) (i : Nat) : i < s.skip i := by
  unfold skip
  split
  · split <;> omega
  · omega

/-- The tokens in scope from `i` up to `stop` whose kind passes the test, behind those found
before. -/
def inScopeFrom (s : Stream) (test : Kind → Bool) (stop i : Nat) (found : Array Nat) :
    Array Nat :=
  if i < stop then
    match s.kind? i with
    | none => found
    | some kind =>
      if test kind then s.inScopeFrom test stop (i + 1) (found.push i)
      else
        have := s.lt_skip i
        s.inScopeFrom test stop (s.skip i) found
  else found
termination_by stop - i

/-- The tokens in scope of a range whose kind passes the test, in increasing order. -/
def inScope (s : Stream) (test : Kind → Bool) (r : Range) : Array Nat :=
  s.inScopeFrom test r.stop r.start #[]

/-- The first token in scope whose kind passes the test. -/
def firstInScope (s : Stream) (test : Kind → Bool) (r : Range) : Option Nat :=
  (s.inScope test r)[0]?

/-- The last token in scope whose kind passes the test. -/
def lastInScope (s : Stream) (test : Kind → Bool) (r : Range) : Option Nat :=
  (s.inScope test r).back?

end Stream

end EscapeAudit
