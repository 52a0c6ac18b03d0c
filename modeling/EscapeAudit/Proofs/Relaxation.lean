import EscapeAudit.Proofs.Lists
import EscapeAudit.Proofs.SplitTree
import EscapeAudit.Proofs.Targets
import Mathlib.Data.List.Flatten

/-!
# Relaxing the rules

A rule set relaxes another when it allows all that the other allows, and perhaps more.  Then it
exempts the statements that the other exempts (`gate_suppressed`), and a leaf that still needs
escaping needed it before, with the same anchor (`judge_unescaped`).

The two runs go over the same leaves, since how a statement is split does not depend on the rules.
They differ in what is pending at a leaf, because a finding that is gone does not take the comment
or the mark with it.  That decides the concern and the fix of a finding, but not whether there is
one: the anchors of a statement are those of its leaves (`outputAnchors_eq`).
-/

namespace EscapeAudit

/-- One rule set allows all that another allows.  The tables that are not about what is allowed do not
matter. -/
structure RuleSet.RelaxedBy (strict loose : RuleSet) : Prop where
  /-- The same part of a name makes a member count as escaping. -/
  contains : strict.methodNameContains = loose.methodNameContains
  /-- More members escape. -/
  methods : strict.allowedMethods ⊆ loose.allowedMethods
  /-- More functions are safe. -/
  functions : strict.allowedFunctions ⊆ loose.allowedFunctions
  /-- More comments exempt. -/
  annotations : strict.allowedAnnotations ⊆ loose.allowedAnnotations

namespace RuleSet.RelaxedBy

variable {strict loose : RuleSet}

theorem isAllowedMethod (h : strict.RelaxedBy loose) {name : String}
    (hname : strict.isAllowedMethod name = true) : loose.isAllowedMethod name = true := by
  rw [RuleSet.isAllowedMethod, Bool.or_eq_true] at hname ⊢
  rcases hname with hname | hname
  · exact .inl (List.contains_iff_mem.mpr (h.methods (List.contains_iff_mem.mp hname)))
  · exact .inr (h.contains ▸ hname)

theorem isAllowedFunction (h : strict.RelaxedBy loose) {name : String}
    (hname : strict.isAllowedFunction name = true) : loose.isAllowedFunction name = true :=
  List.contains_iff_mem.mpr (h.functions (List.contains_iff_mem.mp hname))

theorem isExemption (h : strict.RelaxedBy loose) {comment : String}
    (hcomment : strict.isExemption comment = true) : loose.isExemption comment = true := by
  obtain ⟨mark, hmark, hcontains⟩ := List.any_eq_true.mp hcomment
  exact List.any_eq_true.mpr ⟨mark, h.annotations hmark, hcontains⟩

end RuleSet.RelaxedBy

namespace Stream

variable {s : Stream} {strict loose : RuleSet}

/-! ## One statement -/

/-- A statement that is exempt stays exempt. -/
theorem gate_suppressed (h : strict.RelaxedBy loose) {entry comment : Nat}
    (hgate : s.gate strict entry = .suppressed comment) :
    s.gate loose entry = .suppressed comment := by
  unfold gate at hgate ⊢
  cases hnear : s.commentNear? entry with
  | none =>
    rw [hnear] at hgate
    cases hgate
  | some near =>
    simp only [hnear] at hgate ⊢
    split at hgate
    · rename_i hexempt
      rw [if_pos (h.isExemption hexempt)]
      exact hgate
    · cases hgate

theorem judgeCall_unescaped (h : strict.RelaxedBy loose) {l : Leaf} {i : Nat}
    (hjudge : s.judgeCall loose l = .unescaped i) : s.judgeCall strict l = .unescaped i := by
  unfold judgeCall at hjudge ⊢
  split at hjudge
  · cases hjudge
  · rename_i hloose
    rw [if_neg fun hstrict => hloose (h.isAllowedFunction hstrict)]
    exact hjudge

theorem judgeVariable_unescaped (h : strict.RelaxedBy loose) {l : Leaf} {i : Nat}
    (hjudge : s.judgeVariable loose l = .unescaped i) :
    s.judgeVariable strict l = .unescaped i := by
  unfold judgeVariable at hjudge ⊢
  split at hjudge
  · exact hjudge
  · split at hjudge
    · cases hjudge
    · split at hjudge
      · cases hjudge
      · rename_i hloose
        rw [if_neg]
        · exact hjudge
        · rw [Bool.and_eq_true] at hloose ⊢
          exact fun hstrict => hloose ⟨hstrict.1, h.isAllowedMethod hstrict.2⟩

/-- A leaf that still needs escaping needed it before, with the same anchor. -/
theorem judge_unescaped (h : strict.RelaxedBy loose) {l : Leaf} {i : Nat}
    (hjudge : s.judge loose l = .unescaped i) : s.judge strict l = .unescaped i := by
  unfold judge at hjudge ⊢
  split at hjudge
  · cases hjudge
  · rename_i hplain
    rw [if_neg hplain]
    split at hjudge
    · cases hjudge
    · split at hjudge
      · exact judgeCall_unescaped h hjudge
      · exact hjudge
      · exact judgeVariable_unescaped h hjudge
      · cases hjudge
      · cases hjudge

/-- The anchors of a statement that is not exempt are those of its leaves. -/
theorem outputAnchors_eq {rules : RuleSet} {entry : Nat}
    (hgate : ∀ comment, s.gate rules entry ≠ .suppressed comment) :
    s.outputAnchors rules entry = (s.statementWalk entry).leaves.filterMap (s.anchor? rules) := by
  obtain ⟨p, hsteps⟩ := outputSteps_eq hgate
  rw [outputAnchors, outputFindings, hsteps, List.filterMap_append, filterMap_cutShort,
    List.append_nil]
  exact (s.findings_leafSteps rules entry p _).1

theorem outputAnchors_of_suppressed {rules : RuleSet} {entry comment : Nat}
    (hgate : s.gate rules entry = .suppressed comment) : s.outputAnchors rules entry = [] := by
  rw [outputAnchors, outputFindings, outputSteps, hgate]
  rfl

/-- Relaxed rules report some of the anchors of a statement, in the same order. -/
theorem outputAnchors_sublist (h : strict.RelaxedBy loose) (entry : Nat) :
    (s.outputAnchors loose entry).Sublist (s.outputAnchors strict entry) := by
  cases hloose : s.gate loose entry with
  | suppressed comment =>
    rw [outputAnchors_of_suppressed hloose]
    exact List.nil_sublist _
  | absent | disallowed =>
    have hgate : ∀ comment, s.gate strict entry ≠ .suppressed comment := by
      intro comment hstrict
      rw [gate_suppressed h hstrict] at hloose
      cases hloose
    rw [outputAnchors_eq hgate, outputAnchors_eq fun comment hc => by rw [hc] at hloose; cases hloose]
    refine List.filterMap_sublist_filterMap (fun l i hi => ?_) _
    rw [anchor?_eq_some_iff] at hi ⊢
    exact judge_unescaped h hi

/-! ## The whole template -/

/-- The anchors of an audit are those of the statements in order, if the rule is switched on. -/
theorem outputAnchors_audit (s : Stream) (rules : RuleSet) (a : AnalysisSettings) :
    (s.audit rules a).outputAnchors =
      if a.unescapedOutput then s.entryPoints.flatMap (s.outputAnchors rules) else [] := by
  calc (s.audit rules a).outputAnchors
      = ((s.audit rules a).findings.filter Finding.isOutput).map
          (fun f => f.diagnostic.token) := by
        rw [Audit.outputAnchors, Audit.diagnostics, List.filter_map, List.map_map]
        rfl
    _ = if a.unescapedOutput then s.entryPoints.flatMap (s.outputAnchors rules) else [] := by
        rw [filter_isOutput_findings]
        split
        · rw [List.map_flatMap]
          rfl
        · rfl

end Stream

/-- Relaxing the rules adds no finding about output.  At every entry point, and over the whole
template, what is reported afterwards was reported before, at the same tokens and in the same
order. -/
theorem relaxing_adds_nothing (s : Stream) {strict loose : RuleSet}
    (h : strict.RelaxedBy loose) :
    (∀ entry, (s.outputAnchors loose entry).Sublist (s.outputAnchors strict entry)) ∧
      ∀ a, ((s.audit loose a).outputAnchors).Sublist (s.audit strict a).outputAnchors := by
  refine ⟨Stream.outputAnchors_sublist h, fun a => ?_⟩
  rw [Stream.outputAnchors_audit, Stream.outputAnchors_audit]
  split
  · exact .flatMap_right _ fun entry _ => Stream.outputAnchors_sublist h entry
  · exact List.nil_sublist _

/-- Rules that allow one more member, function and marker than the standard ones, and write another
escaper. -/
def lenientRules : RuleSet :=
  { RuleSet.standard with
    allowedMethods := "show" :: RuleSet.standard.allowedMethods
    allowedFunctions := ["count", "trim"]
    allowedAnnotations := ["@noEscape", "@ok"]
    escaperAccessor := "$e" }

/-- Of four findings one is left: a statement is exempt now, and a call and a member are safe. -/
theorem relaxing_adds_nothing_lenient :
    RuleSet.standard.RelaxedBy lenientRules ∧
    ∃ s, tokenize "<?php /*@ok*/echo $a?><?=trim().$c.$d->show?>" = .ok s ∧
      (s.audit .standard ⟨true, true, true⟩).outputAnchors = [4, 7, 11, 15] ∧
      (s.audit lenientRules ⟨true, true, true⟩).outputAnchors = [11] ∧
      (s.audit lenientRules ⟨true, true, true⟩).outputAnchors.Sublist
        (s.audit .standard ⟨true, true, true⟩).outputAnchors := by
  have hrelaxed : RuleSet.standard.RelaxedBy lenientRules :=
    ⟨rfl, List.subset_cons_self _ _, by decide, by decide⟩
  exact ⟨hrelaxed, (Lexed.ofSource
      "<?php /*@ok*/echo $a?><?=trim().$c.$d->show?>").stream,
    tokenize_of_fault_eq_none (by decide +kernel), by decide +kernel, by decide +kernel,
    (relaxing_adds_nothing _ hrelaxed).2 _⟩

end EscapeAudit
