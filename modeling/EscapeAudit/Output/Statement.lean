import EscapeAudit.Diagnostic
import EscapeAudit.Output.Gate
import EscapeAudit.Output.Remedy
import EscapeAudit.Output.Verdict
import EscapeAudit.Queue

/-!
# Output statements

The range behind an entry point is split again and again, first come, first served, until only
leaves are left or the limit of ranges is reached.  Then every leaf is judged in the order in
which it was found.  An exempt statement is not looked at.

A comment that exempts nothing marks only the first finding of its statement.  An `echo` statement
gets one mark, and it comes with the first finding that asks for it.
-/

namespace EscapeAudit

/-- How the ranges of a statement were split. -/
structure Walk where
  /-- The results of splitting, in order. -/
  splits : List Split
  /-- Whether ranges were left when the limit was reached. -/
  cutShort : Bool
  deriving DecidableEq, Repr

/-- The leaf that splitting gave, if it gave one. -/
def Split.leaf? : Split → Option Leaf
  | leaf l => some l
  | _ => none

/-- The leaves found on a walk, in order. -/
def Walk.leaves (w : Walk) : List Leaf := w.splits.filterMap Split.leaf?

/-- Splits the ranges of a queue, and the ranges that come out of them, but at most `budget`
ranges. -/
def Stream.walk (s : Stream) : (budget : Nat) → Queue Range → Walk
  | budget, queue =>
    match queue.pop? with
    | none => ⟨[], false⟩
    | some (r, rest) =>
      match budget with
      | 0 => ⟨[], true⟩
      | budget + 1 =>
        let split := s.split r
        let w := s.walk budget (rest.pushAll split.children)
        ⟨split :: w.splits, w.cutShort⟩

/-- The range of the statement that a token opens. -/
def Stream.statementRange (s : Stream) (entry : Nat) : Range :=
  ⟨entry + 1, s.statementEnd entry⟩

/-- One thing that a rule has to say. -/
inductive Step where
  /-- A comment exempts the statement of an entry point. -/
  | exempt (entry : Nat) (comment : String)
  /-- A leaf is left as it is. -/
  | passed (range : Range) (verdict : Verdict)
  /-- Something is reported. -/
  | found (f : Finding)
  /-- The statement of an entry point has too many ranges. -/
  | cutShort (entry : Nat)
  deriving DecidableEq, Repr

namespace Step

/-- What is reported, if something is. -/
def finding? : Step → Option Finding
  | found f => some f
  | _ => none

/-- What the journal is told. -/
def note : Step → Note
  | exempt entry comment =>
    .debug "Statement suppressed by annotation" [("entry", .nat entry), ("comment", .text comment)]
  | passed range verdict =>
    .debug "Leaf needs no escaping"
      [("range", .text range.render), ("verdict", .text verdict.describe)]
  | found f => f.note
  | cutShort entry =>
    .error .leafLimit "Statement has too many sub-expressions; remaining leaves skipped"
      [("entry", .nat entry), ("limit", .nat Limits.rangesPerStatement)]

end Step

/-- What is still to come in a statement. -/
structure Pending where
  /-- The comment that exempts nothing is to be told. -/
  disallowed : Bool
  /-- The mark before the keyword is to be placed. -/
  marker : Bool
  deriving DecidableEq, Repr

namespace Stream

/-- The finding for a leaf, and what is to come after it. -/
def findingAt (s : Stream) (rules : RuleSet) (entry : Nat) (p : Pending) (l : Leaf)
    (anchor : Nat) : Finding × Pending :=
  let concern := if p.disallowed then Concern.disallowedComment else .unescaped
  let decision := s.decide rules entry l.first l.last anchor
  let marksEntry := decision.remedy == .mark && decision.markerAt == entry
  let fix := if marksEntry && !p.marker then none else decision.changeset? rules
  (⟨.at_ s concern anchor, fix⟩, ⟨false, p.marker && !marksEntry⟩)

/-- What there is to say about leaves, in order. -/
def leafSteps (s : Stream) (rules : RuleSet) (entry : Nat) : Pending → List Leaf → List Step
  | _, [] => []
  | p, l :: rest =>
    match s.judge rules l with
    | .unescaped anchor =>
      let (f, p) := s.findingAt rules entry p l anchor
      .found f :: s.leafSteps rules entry p rest
    | verdict => .passed l.range verdict :: s.leafSteps rules entry p rest

/-- What there is to say about the statement that a token opens. -/
def outputSteps (s : Stream) (rules : RuleSet) (entry : Nat) : List Step :=
  let gate := s.gate rules entry
  match gate with
  | .suppressed comment => [.exempt entry (s.text comment)]
  | _ =>
    let w := s.walk Limits.rangesPerStatement (.single (s.statementRange entry))
    let disallowed := match gate with
      | .disallowed _ => true
      | _ => false
    s.leafSteps rules entry ⟨disallowed, true⟩ w.leaves ++
      (if w.cutShort then [.cutShort entry] else [])

end Stream

end EscapeAudit
