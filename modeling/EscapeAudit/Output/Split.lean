import EscapeAudit.Output.Scope

/-!
# Splitting an expression

The range of an output statement is split until what is left are leaves.  A range in parentheses
gives its inside.  Else a range with a ternary in scope gives the two branches of the last one,
and its condition is dropped.  Else a range with concatenations in scope gives the pieces between
them.  A range of blanks and comments gives nothing, and neither does a ternary whose `:` is
missing.  Anything else is a leaf.
-/

namespace EscapeAudit

/-- A range that cannot be split. -/
structure Leaf where
  /-- The range. -/
  range : Range
  /-- Its first token that is not trivia. -/
  first : Nat
  /-- Its last token that is not trivia. -/
  last : Nat
  deriving DecidableEq, Repr

/-- What splitting a range gives. -/
inductive Split where
  /-- Nothing to look at. -/
  | skip
  /-- The inside of a pair of parentheses. -/
  | unwrapped (inner : Range)
  /-- The pieces of the range in order. -/
  | pieces (ranges : List Range)
  /-- A range that cannot be split. -/
  | leaf (l : Leaf)
  deriving DecidableEq, Repr

/-- The ranges that take the place of the one that was split. -/
def Split.children : Split → List Range
  | skip | leaf _ => []
  | unwrapped inner => [inner]
  | pieces ranges => ranges

namespace Stream

/-- The first and the last token of a range that are not trivia. -/
def bounds? (s : Stream) (r : Range) : Option (Nat × Nat) :=
  if r.isEmpty then none
  else
    match s.findNext (fun k => !k.isTrivia) r.start r.stop with
    | none => none
    | some first =>
      (s.findPrevious (fun k => !k.isTrivia) (r.stop - 1) first).map fun last => (first, last)

/-- Whether the two tokens are a pair of parentheses. -/
def isPair (s : Stream) (first last : Nat) : Bool :=
  s.kind? first == some .openParenthesis && s.partner? first == some last

/-- The branches of a ternary whose `?` is given. -/
def branches (s : Stream) (r : Range) (then_ : Nat) : Split :=
  match s.firstInScope (· == .inlineElse) ⟨then_ + 1, r.stop⟩ with
  | some else_ => .pieces [⟨then_ + 1, else_⟩, ⟨else_ + 1, r.stop⟩]
  | none => .skip

/-- Splits a range once. -/
def split (s : Stream) (r : Range) : Split :=
  match s.bounds? r with
  | none => .skip
  | some (first, last) =>
    if s.isPair first last then .unwrapped ⟨first + 1, last⟩
    else
      match s.lastInScope (· == .inlineThen) r with
      | some then_ => s.branches r then_
      | none =>
        let cuts := s.inScope (· == .concat) r
        if cuts.isEmpty then .leaf ⟨r, first, last⟩ else .pieces (r.cutAt cuts)

end Stream

end EscapeAudit
