import EscapeAudit.Proofs.Anchors

/-!
# The two rules do not interfere

Both rules write into one audit, and the rule for escaping through the block remembers there whether
the header has been looked at.  Here three audits of one template go in step: one with both rules and
one with each of them alone.  At every entry point the joint audit remembers what the audit with the
second rule remembers, and its findings are those of the other two (`InStep`).  One statement keeps
this (`InStep.addEntry`), and so it holds for the whole template.

What is added at an entry point is read off two states of an audit, the one before and the one after
it (`reportsFrom`).  In the joint audit that is what the first rule adds followed by what the second
one adds (`InStep.reportsFrom`).
-/

namespace EscapeAudit

namespace AnalysisSettings

/-- Both rules are switched on. -/
def bothRules (a : AnalysisSettings) : AnalysisSettings :=
  { a with unescapedOutput := true, legacyEscape := true }

/-- Only the rule for output that is not escaped is switched on. -/
def outputRule (a : AnalysisSettings) : AnalysisSettings :=
  { a with unescapedOutput := true, legacyEscape := false }

/-- Only the rule for escaping through the block is switched on. -/
def legacyRule (a : AnalysisSettings) : AnalysisSettings :=
  { a with unescapedOutput := false, legacyEscape := true }

end AnalysisSettings

namespace Audit

variable {s : Stream} {rules : RuleSet} {a : AnalysisSettings}

/-! ## What is added at each entry point -/

/-- What an audit adds at entry points, one list of findings for each of them. -/
def reportsFrom (s : Stream) (rules : RuleSet) (a : AnalysisSettings) :
    Audit → List Nat → List (List Finding)
  | _, [] => []
  | audit, e :: es =>
    let next := addEntry s rules a audit e
    next.findings.drop audit.findings.length :: reportsFrom s rules a next es

/-- What is added at one entry point. -/
theorem drop_findings_addEntry (s : Stream) (rules : RuleSet) (a : AnalysisSettings)
    (audit : Audit) (e : Nat) :
    (addEntry s rules a audit e).findings.drop audit.findings.length =
      (if a.unescapedOutput then s.outputFindings rules e else []) ++
        (if a.legacyEscape then s.legacyFindings rules audit.headerChecked e else []) := by
  rw [Stream.findings_addEntry, List.drop_left]

/-- The findings of an audit are what it adds, in order. -/
theorem findings_foldl_addEntry (audit : Audit) (es : List Nat) :
    (es.foldl (addEntry s rules a) audit).findings =
      audit.findings ++ (reportsFrom s rules a audit es).flatten := by
  induction es generalizing audit with
  | nil => rw [reportsFrom, List.flatten_nil, List.append_nil, List.foldl_nil]
  | cons e es ih =>
    rw [List.foldl_cons, ih, reportsFrom, List.flatten_cons, drop_findings_addEntry,
      Stream.findings_addEntry, List.append_assoc]

theorem length_reportsFrom (audit : Audit) (es : List Nat) :
    (reportsFrom s rules a audit es).length = es.length := by
  induction es generalizing audit with
  | nil => rfl
  | cons e es ih => rw [reportsFrom, List.length_cons, ih, List.length_cons]

theorem headerChecked_addEntry (s : Stream) (rules : RuleSet) (a : AnalysisSettings)
    (audit : Audit) (e : Nat) :
    (addEntry s rules a audit e).headerChecked =
      if a.legacyEscape then (s.legacySteps rules audit.headerChecked e).2
      else audit.headerChecked := by
  cases houtput : a.unescapedOutput <;> cases hlegacy : a.legacyEscape <;>
    simp [addEntry, houtput, hlegacy, addOutput, addLegacy]

/-! ## Three audits in step -/

/-- An audit with both rules and the audits with each of them, at the same entry point. -/
structure InStep (joint output legacy : Audit) : Prop where
  /-- The joint audit remembers what the audit with the second rule remembers. -/
  header : joint.headerChecked = legacy.headerChecked
  /-- Its findings about output are those of the first rule. -/
  output : joint.findings.filter Finding.isOutput = output.findings
  /-- Its other findings are those of the second rule. -/
  legacy : joint.findings.filter (fun f => !f.isOutput) = legacy.findings

theorem inStep_empty : InStep empty empty empty := ⟨rfl, rfl, rfl⟩

namespace InStep

variable {joint output legacy : Audit}

/-- At one entry point the joint audit adds what the first rule adds and then what the second one
adds. -/
theorem drop_findings (h : InStep joint output legacy) (e : Nat) :
    (Audit.addEntry s rules a.bothRules joint e).findings.drop joint.findings.length =
      (Audit.addEntry s rules a.outputRule output e).findings.drop output.findings.length ++
        (Audit.addEntry s rules a.legacyRule legacy e).findings.drop legacy.findings.length := by
  rw [drop_findings_addEntry, drop_findings_addEntry, drop_findings_addEntry, h.header]
  show s.outputFindings rules e ++ s.legacyFindings rules legacy.headerChecked e =
    (s.outputFindings rules e ++ []) ++ ([] ++ s.legacyFindings rules legacy.headerChecked e)
  rw [List.append_nil, List.nil_append]

/-- Three audits that are in step are in step behind one more statement. -/
theorem addEntry (h : InStep joint output legacy) (e : Nat) :
    InStep (Audit.addEntry s rules a.bothRules joint e) (Audit.addEntry s rules a.outputRule output e)
      (Audit.addEntry s rules a.legacyRule legacy e) := by
  have houtput : ∀ f ∈ s.outputFindings rules e, f.isOutput = true :=
    (s.outputFindings_cases rules e).1
  have hlegacy : ∀ f ∈ s.legacyFindings rules legacy.headerChecked e, f.isOutput = false :=
    fun f => Stream.not_isOutput_of_mem_legacyFindings
  have hjoint : (Audit.addEntry s rules a.bothRules joint e).findings = joint.findings ++
      (s.outputFindings rules e ++ s.legacyFindings rules legacy.headerChecked e) := by
    rw [Stream.findings_addEntry, h.header]
    rfl
  refine ⟨?_, ?_, ?_⟩
  · rw [headerChecked_addEntry, headerChecked_addEntry, h.header]
    rfl
  · calc (Audit.addEntry s rules a.bothRules joint e).findings.filter Finding.isOutput
        = output.findings ++ s.outputFindings rules e := by
          rw [hjoint, List.filter_append, List.filter_append, h.output,
            List.filter_eq_self.mpr houtput,
            List.filter_eq_nil_iff.mpr fun f hf => by simp [hlegacy f hf], List.append_nil]
      _ = (Audit.addEntry s rules a.outputRule output e).findings := by
          rw [Stream.findings_addEntry]
          exact congrArg _ (List.append_nil _).symm
  · calc (Audit.addEntry s rules a.bothRules joint e).findings.filter (fun f => !f.isOutput)
        = legacy.findings ++ s.legacyFindings rules legacy.headerChecked e := by
          rw [hjoint, List.filter_append, List.filter_append, h.legacy,
            List.filter_eq_nil_iff.mpr fun f hf => by simp [houtput f hf],
            List.filter_eq_self.mpr fun f hf => by simp [hlegacy f hf], List.nil_append]
      _ = (Audit.addEntry s rules a.legacyRule legacy e).findings := by
          rw [Stream.findings_addEntry]
          rfl

theorem foldl (h : InStep joint output legacy) (es : List Nat) :
    InStep (es.foldl (Audit.addEntry s rules a.bothRules) joint)
      (es.foldl (Audit.addEntry s rules a.outputRule) output)
      (es.foldl (Audit.addEntry s rules a.legacyRule) legacy) := by
  induction es generalizing joint output legacy with
  | nil => exact h
  | cons e es ih => exact ih (h.addEntry e)

/-- The joint audit adds at each entry point what the two rules add there, the first rule first. -/
theorem reportsFrom (h : InStep joint output legacy) (es : List Nat) :
    Audit.reportsFrom s rules a.bothRules joint es =
      List.zipWith (· ++ ·) (Audit.reportsFrom s rules a.outputRule output es)
        (Audit.reportsFrom s rules a.legacyRule legacy es) := by
  induction es generalizing joint output legacy with
  | nil => rfl
  | cons e es ih =>
    rw [Audit.reportsFrom, Audit.reportsFrom, Audit.reportsFrom, List.zipWith_cons_cons,
      h.drop_findings e, ih (h.addEntry e)]

end InStep

end Audit

namespace Stream

/-- The changesets that an audit adds at each entry point. -/
def changesetsByEntry (s : Stream) (rules : RuleSet) (a : AnalysisSettings) :
    List (List Changeset) :=
  (Audit.reportsFrom s rules a .empty s.entryPoints).map fun fs => fs.filterMap Finding.fix

theorem length_changesetsByEntry (s : Stream) (rules : RuleSet) (a : AnalysisSettings) :
    (s.changesetsByEntry rules a).length = s.entryPoints.length := by
  rw [changesetsByEntry, List.length_map, Audit.length_reportsFrom]

/-- The changesets of an audit are those of its entry points in order. -/
theorem flatten_changesetsByEntry (s : Stream) (rules : RuleSet) (a : AnalysisSettings) :
    (s.changesetsByEntry rules a).flatten = (s.audit rules a).changesets := by
  rw [Audit.changesets, audit, Audit.findings_foldl_addEntry, changesetsByEntry,
    ← List.filterMap_flatten]
  rfl

theorem changesetsByEntry_bothRules (s : Stream) (rules : RuleSet) (a : AnalysisSettings) :
    s.changesetsByEntry rules a.bothRules =
      List.zipWith (· ++ ·) (s.changesetsByEntry rules a.outputRule)
        (s.changesetsByEntry rules a.legacyRule) := by
  rw [changesetsByEntry, Audit.inStep_empty.reportsFrom, List.map_zipWith, changesetsByEntry,
    changesetsByEntry, List.zipWith_map]
  simp only [List.filterMap_append]

end Stream

/-- The two rules do not interfere.  The diagnostics of a joint audit about output are those of the
first rule alone, and the others are those of the second rule alone.  Its changesets are those of the
two rules alone, entry point by entry point, the first rule first. -/
theorem rules_independent (s : Stream) (rules : RuleSet) (a : AnalysisSettings) :
    (s.audit rules a.bothRules).diagnostics.filter (fun d => d.concern.isOutput) =
      (s.audit rules a.outputRule).diagnostics ∧
    (s.audit rules a.bothRules).diagnostics.filter (fun d => !d.concern.isOutput) =
      (s.audit rules a.legacyRule).diagnostics ∧
    (s.audit rules a.bothRules).changesets =
      (List.zipWith (· ++ ·) (s.changesetsByEntry rules a.outputRule)
        (s.changesetsByEntry rules a.legacyRule)).flatten ∧
    (∀ b, (s.changesetsByEntry rules b).length = s.entryPoints.length ∧
      (s.changesetsByEntry rules b).flatten = (s.audit rules b).changesets) := by
  have hstep : Audit.InStep (s.audit rules a.bothRules) (s.audit rules a.outputRule)
      (s.audit rules a.legacyRule) := Audit.inStep_empty.foldl s.entryPoints
  refine ⟨?_, ?_, ?_, fun b => ⟨s.length_changesetsByEntry rules b,
    s.flatten_changesetsByEntry rules b⟩⟩
  · rw [Audit.diagnostics, Audit.diagnostics, List.filter_map, ← hstep.output]
    rfl
  · rw [Audit.diagnostics, Audit.diagnostics, List.filter_map, ← hstep.legacy]
    rfl
  · rw [← s.changesetsByEntry_bothRules, s.flatten_changesetsByEntry]

end EscapeAudit
