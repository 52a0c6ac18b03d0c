import EscapeAudit.Legacy

/-!
# The audit of a template

The rules that are switched on look at every entry point in order, and at each of them the rule for
output that is not escaped comes first.
-/

namespace EscapeAudit

/-- What the rules have said so far. -/
structure Audit where
  /-- What they said, in order. -/
  steps : Array Step
  /-- Whether the header has been looked at. -/
  headerChecked : Bool
  deriving DecidableEq, Repr

namespace Audit

/-- Nothing said yet. -/
def empty : Audit := ⟨#[], false⟩

/-- The rule for output that is not escaped looks at a statement. -/
def addOutput (s : Stream) (rules : RuleSet) (a : Audit) (entry : Nat) : Audit :=
  { a with steps := a.steps ++ s.outputSteps rules entry }

/-- The rule for escaping through the block looks at a statement. -/
def addLegacy (s : Stream) (rules : RuleSet) (a : Audit) (entry : Nat) : Audit :=
  let (steps, headerChecked) := s.legacySteps rules a.headerChecked entry
  ⟨a.steps ++ steps, headerChecked⟩

/-- The rules that are switched on look at a statement. -/
def addEntry (s : Stream) (rules : RuleSet) (settings : AnalysisSettings) (a : Audit)
    (entry : Nat) : Audit :=
  let a := if settings.unescapedOutput then addOutput s rules a entry else a
  if settings.legacyEscape then addLegacy s rules a entry else a

/-- What is reported, in order. -/
def findings (a : Audit) : List Finding := a.steps.toList.filterMap Step.finding?

/-- The diagnostics in order. -/
def diagnostics (a : Audit) : List Diagnostic := a.findings.map Finding.diagnostic

/-- The changesets in order. -/
def changesets (a : Audit) : List Changeset := a.findings.filterMap Finding.fix

end Audit

/-- The audit of a template. -/
def Stream.audit (s : Stream) (rules : RuleSet) (settings : AnalysisSettings) : Audit :=
  s.entryPoints.foldl (Audit.addEntry s rules settings) .empty

/-- What the journal is told about the audit of a template. -/
def Audit.entries (s : Stream) (a : Audit) : List Entry :=
  a.steps.toList.map (fun step => .note step.note) ++
    [.note (.success .analyzed "Template analysis completed"
      [("entry_points", .nat s.entryPoints.length), ("diagnostics", .nat a.diagnostics.length),
       ("changesets", .nat a.changesets.length)])]

end EscapeAudit
