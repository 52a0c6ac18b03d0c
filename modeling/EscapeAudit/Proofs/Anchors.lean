import EscapeAudit.Proofs.Chunks

/-!
# The anchors of findings

What an audit reports comes from the statements one by one (`mem_findings_audit`), and what it
reports about output comes from them in order (`output_findings_audit`).  The rule for output
carries along what is still to come in a statement.  What it reports is said here without that, one
finding for each leaf that needs escaping (`outputFindings_eq`).

A finding about output is anchored inside the leaf that it is about (`anchor_within`), and leaves of
one statement stand apart.  So one statement has no two findings with the same anchor, and two
statements can only share an anchor when one of them begins inside the other (`anchors_distinct`).
-/

namespace EscapeAudit

/-- Whether a concern is about output that is not escaped. -/
def Concern.isOutput : Concern → Bool
  | unescaped | disallowedComment => true
  | deprecatedEscape | missingDeclaration => false

/-- Whether a finding is about output that is not escaped. -/
def Finding.isOutput (f : Finding) : Bool := f.diagnostic.concern.isOutput

/-- Whether a comment near a statement exempts nothing. -/
def Gate.disallows : Gate → Bool
  | disallowed _ => true
  | absent | suppressed _ => false

namespace Stream

/-! ## The findings of an audit -/

/-- What is reported about the output of a statement. -/
def outputFindings (s : Stream) (rules : RuleSet) (entry : Nat) : List Finding :=
  (s.outputSteps rules entry).filterMap Step.finding?

/-- The changesets for the output of a statement. -/
def outputChangesets (s : Stream) (rules : RuleSet) (entry : Nat) : List Changeset :=
  (s.outputFindings rules entry).filterMap Finding.fix

theorem outputChangesets_standard (s : Stream) (e : Nat) :
    s.outputChangesets .standard e = (s.outputFixes e).map Fix.changeset :=
  s.changesetsOf_outputSteps e

/-- What is reported about escaping through the block in a statement. -/
def legacyFindings (s : Stream) (rules : RuleSet) (checked : Bool) (entry : Nat) : List Finding :=
  (s.legacySteps rules checked entry).1.filterMap Step.finding?

/-- What one statement adds to the findings. -/
theorem findings_addEntry (s : Stream) (rules : RuleSet) (a : AnalysisSettings) (audit : Audit)
    (e : Nat) :
    (Audit.addEntry s rules a audit e).findings =
      audit.findings ++ ((if a.unescapedOutput then s.outputFindings rules e else []) ++
        (if a.legacyEscape then s.legacyFindings rules audit.headerChecked e else [])) := by
  cases houtput : a.unescapedOutput <;> cases hlegacy : a.legacyEscape <;>
    simp [Audit.addEntry, houtput, hlegacy, Audit.addOutput, Audit.addLegacy, Audit.findings,
      outputFindings, legacyFindings]

theorem mem_findings_foldl {s : Stream} {rules : RuleSet} {a : AnalysisSettings} {es : List Nat}
    {audit : Audit} {f : Finding}
    (h : f ∈ (es.foldl (Audit.addEntry s rules a) audit).findings) :
    f ∈ audit.findings ∨ ∃ e ∈ es, (a.unescapedOutput = true ∧ f ∈ s.outputFindings rules e) ∨
      (a.legacyEscape = true ∧ ∃ checked, f ∈ s.legacyFindings rules checked e) := by
  induction es generalizing audit with
  | nil => exact .inl h
  | cons e es ih =>
    rcases ih h with h | ⟨e', he', h⟩
    · rw [findings_addEntry, List.mem_append, List.mem_append] at h
      rcases h with h | h | h
      · exact .inl h
      · split at h
        · exact .inr ⟨e, by simp, .inl ⟨‹_›, h⟩⟩
        · cases h
      · split at h
        · exact .inr ⟨e, by simp, .inr ⟨‹_›, _, h⟩⟩
        · cases h
    · exact .inr ⟨e', by simp [he'], h⟩

/-- Every finding of an audit is one of a rule about a statement. -/
theorem mem_findings_audit {s : Stream} {rules : RuleSet} {a : AnalysisSettings} {f : Finding}
    (h : f ∈ (s.audit rules a).findings) :
    ∃ e ∈ s.entryPoints, (a.unescapedOutput = true ∧ f ∈ s.outputFindings rules e) ∨
      (a.legacyEscape = true ∧ ∃ checked, f ∈ s.legacyFindings rules checked e) := by
  rcases mem_findings_foldl h with h | h
  · cases h
  · exact h

/-! ## Findings about output -/

/-- The token that a finding about a leaf is anchored at, if the leaf needs escaping. -/
def anchor? (s : Stream) (rules : RuleSet) (l : Leaf) : Option Nat :=
  match s.judge rules l with
  | .unescaped anchor => some anchor
  | _ => none

theorem anchor?_eq_some_iff {s : Stream} {rules : RuleSet} {l : Leaf} {i : Nat} :
    s.anchor? rules l = some i ↔ s.judge rules l = .unescaped i := by
  unfold anchor?
  cases s.judge rules l <;> simp

/-- The leaf with its anchor, if it needs escaping. -/
def exposed? (s : Stream) (rules : RuleSet) (l : Leaf) : Option (Leaf × Nat) :=
  (s.anchor? rules l).map fun i => (l, i)

theorem exposed?_eq_some_iff {s : Stream} {rules : RuleSet} {l : Leaf} {x : Leaf × Nat} :
    s.exposed? rules l = some x ↔ x.1 = l ∧ s.judge rules l = .unescaped x.2 := by
  rw [← anchor?_eq_some_iff, exposed?, Option.map_eq_some_iff]
  constructor
  · rintro ⟨i, hi, rfl⟩
    exact ⟨rfl, hi⟩
  · rintro ⟨rfl, hi⟩
    exact ⟨x.2, hi, rfl⟩

/-- The decision about a leaf that needs escaping, given with its anchor. -/
def decisionFor (s : Stream) (rules : RuleSet) (entry : Nat) (x : Leaf × Nat) : Decision :=
  s.decide rules entry x.1.first x.1.last x.2

/-- Whether a leaf is mended by the mark before the keyword of its statement. -/
def marksEntry (s : Stream) (rules : RuleSet) (entry : Nat) (x : Leaf × Nat) : Bool :=
  (s.decisionFor rules entry x).remedy == .mark && (s.decisionFor rules entry x).markerAt == entry

theorem remedyFor_cases (s : Stream) (rules : RuleSet) (first : Nat) (name : String) :
    s.remedyFor rules first name = .mark ∨ ∃ f, s.remedyFor rules first name = .wrap f := by
  unfold remedyFor
  dsimp only
  split
  · exact .inl rfl
  · split
    · exact .inr ⟨_, rfl⟩
    · exact .inr ⟨_, rfl⟩

theorem remedy_decide (s : Stream) (rules : RuleSet) (entry first last named : Nat) :
    (s.decide rules entry first last named).remedy = s.remedyFor rules first (s.text named) := by
  rw [decide]

/-- What is reported about a leaf that needs escaping, given its number among them. -/
def report (s : Stream) (rules : RuleSet) (entry : Nat) (p : Pending) (xs : List (Leaf × Nat))
    (i : Nat) (x : Leaf × Nat) : Finding :=
  ⟨.at_ s (if p.disallowed && i == 0 then .disallowedComment else .unescaped) x.2,
    if s.marksEntry rules entry x && (!p.marker || (xs.take i).any (s.marksEntry rules entry)) then
      none
    else (s.decisionFor rules entry x).changeset? rules⟩

theorem report_zero (s : Stream) (rules : RuleSet) (entry : Nat) (p : Pending)
    (xs : List (Leaf × Nat)) (x : Leaf × Nat) :
    s.report rules entry p xs 0 x = (s.findingAt rules entry p x.1 x.2).1 := by
  rw [report, List.take_zero, List.any_nil, Bool.or_false, beq_self_eq_true, Bool.and_true]
  rfl

/-- Behind the first leaf, what is still to come has changed. -/
theorem report_succ (s : Stream) (rules : RuleSet) (entry : Nat) (p : Pending) (x : Leaf × Nat)
    (xs : List (Leaf × Nat)) (i : Nat) :
    s.report rules entry p (x :: xs) (i + 1) =
      s.report rules entry (s.findingAt rules entry p x.1 x.2).2 xs i := by
  have hpending : (s.findingAt rules entry p x.1 x.2).2 =
      ⟨false, p.marker && !s.marksEntry rules entry x⟩ := rfl
  funext y
  rw [hpending, report, report, List.take_succ_cons, List.any_cons, Bool.not_and, Bool.not_not,
    Bool.or_assoc]
  simp

/-- What is reported about leaves, without walking over them. -/
theorem findings_leafSteps_eq (s : Stream) (rules : RuleSet) (entry : Nat) (p : Pending)
    (leaves : List Leaf) :
    (s.leafSteps rules entry p leaves).filterMap Step.finding? =
      (leaves.filterMap (s.exposed? rules)).mapIdx
        (s.report rules entry p (leaves.filterMap (s.exposed? rules))) := by
  induction leaves generalizing p with
  | nil => rfl
  | cons l rest ih =>
    cases hjudge : s.judge rules l with
    | unescaped anchor =>
      have hexposed : s.exposed? rules l = some (l, anchor) :=
        exposed?_eq_some_iff.mpr ⟨rfl, hjudge⟩
      rw [leafSteps, hjudge, List.filterMap_cons_some hexposed, List.mapIdx_cons, report_zero]
      simp only [report_succ]
      rw [← ih]
      rfl
    | safe =>
      have hexposed : s.exposed? rules l = none := by rw [exposed?, anchor?, hjudge]; rfl
      rw [leafSteps, hjudge, List.filterMap_cons_none hexposed]
      exact ih p
    | skipped =>
      have hexposed : s.exposed? rules l = none := by rw [exposed?, anchor?, hjudge]; rfl
      rw [leafSteps, hjudge, List.filterMap_cons_none hexposed]
      exact ih p

theorem isOutput_report (s : Stream) (rules : RuleSet) (entry : Nat) (p : Pending)
    (xs : List (Leaf × Nat)) (i : Nat) (x : Leaf × Nat) :
    (s.report rules entry p xs i x).isOutput = true := by
  rw [report, Finding.isOutput, Diagnostic.at_]
  dsimp only
  split <;> rfl

theorem findings_leafSteps (s : Stream) (rules : RuleSet) (entry : Nat) (p : Pending)
    (leaves : List Leaf) :
    ((s.leafSteps rules entry p leaves).filterMap Step.finding?).map (fun f => f.diagnostic.token) =
        leaves.filterMap (s.anchor? rules) ∧
      ∀ f ∈ (s.leafSteps rules entry p leaves).filterMap Step.finding?, f.isOutput = true := by
  rw [findings_leafSteps_eq]
  constructor
  · have hsnd : ∀ l, (s.exposed? rules l).map Prod.snd = s.anchor? rules l := by
      intro l
      rw [exposed?, Option.map_map]
      exact Option.map_id'
    have hanchors : (leaves.filterMap (s.exposed? rules)).map Prod.snd =
        leaves.filterMap (s.anchor? rules) := by
      rw [List.map_filterMap]
      simp only [hsnd]
    rw [← hanchors]
    apply List.ext_getElem?
    intro i
    rw [List.getElem?_map, List.getElem?_map, List.getElem?_mapIdx, Option.map_map]
    rfl
  · intro f hf
    obtain ⟨i, _, rfl⟩ := List.mem_mapIdx.mp hf
    exact s.isOutput_report rules entry p _ i _

/-- That a walk was cut short is told, but it is no finding. -/
theorem filterMap_cutShort (w : Walk) (entry : Nat) :
    (if w.cutShort then [Step.cutShort entry] else []).filterMap Step.finding? = [] := by
  split <;> rfl

/-- The anchors of the findings about the output of a statement, in order. -/
def outputAnchors (s : Stream) (rules : RuleSet) (entry : Nat) : List Nat :=
  (s.outputFindings rules entry).map fun f => f.diagnostic.token

/-- The leaves of a statement that need escaping, in order, each with its anchor. -/
def exposed (s : Stream) (rules : RuleSet) (entry : Nat) : List (Leaf × Nat) :=
  (s.statementWalk entry).leaves.filterMap (s.exposed? rules)

theorem outputFindings_of_suppressed {s : Stream} {rules : RuleSet} {entry comment : Nat}
    (h : s.gate rules entry = .suppressed comment) : s.outputFindings rules entry = [] := by
  rw [outputFindings, outputSteps, h]
  rfl

/-- What is reported about the output of a statement that is not exempt. -/
theorem outputFindings_eq {s : Stream} {rules : RuleSet} {entry : Nat}
    (hgate : ∀ comment, s.gate rules entry ≠ .suppressed comment) :
    s.outputFindings rules entry = (s.exposed rules entry).mapIdx
      (s.report rules entry ⟨(s.gate rules entry).disallows, true⟩ (s.exposed rules entry)) := by
  rw [outputFindings, outputSteps, exposed, ← findings_leafSteps_eq]
  cases h : s.gate rules entry with
  | suppressed comment => exact absurd h (hgate comment)
  | absent | disallowed =>
    dsimp only
    rw [List.filterMap_append, filterMap_cutShort, List.append_nil]
    rfl

/-- What is reported about the output of a statement is about output, and each finding is about a
leaf of the statement. -/
theorem outputFindings_cases (s : Stream) (rules : RuleSet) (entry : Nat) :
    (∀ f ∈ s.outputFindings rules entry, f.isOutput = true) ∧
      (s.outputAnchors rules entry = [] ∨ s.outputAnchors rules entry =
        (s.statementWalk entry).leaves.filterMap (s.anchor? rules)) := by
  unfold outputAnchors outputFindings outputSteps
  dsimp only
  cases s.gate rules entry with
  | suppressed => exact ⟨fun f hf => (by cases hf), .inl rfl⟩
  | absent =>
    obtain ⟨hmap, hout⟩ := s.findings_leafSteps rules entry ⟨false, true⟩
      (s.statementWalk entry).leaves
    simp only [List.filterMap_append, filterMap_cutShort, List.append_nil]
    exact ⟨hout, .inr hmap⟩
  | disallowed =>
    obtain ⟨hmap, hout⟩ := s.findings_leafSteps rules entry ⟨true, true⟩
      (s.statementWalk entry).leaves
    simp only [List.filterMap_append, filterMap_cutShort, List.append_nil]
    exact ⟨hout, .inr hmap⟩

/-- What is reported about escaping through the block is a call on `$block` or the missing
declaration. -/
theorem mem_legacyFindings {s : Stream} {rules : RuleSet} {checked : Bool} {entry : Nat} {f : Finding}
    (h : f ∈ s.legacyFindings rules checked entry) :
    (∃ call ∈ s.escapeCalls rules entry, ∃ receiver,
      s.blockReceiver? rules entry call = some receiver ∧ f = s.aliasFinding rules receiver) ∨
    (s.escapeCalls rules entry ≠ [] ∧ s.lacksDeclaration = true ∧ f = s.headerFinding) := by
  obtain ⟨step, hstep, hfound⟩ := List.mem_filterMap.mp h
  have halias : step ∈ (((s.escapeCalls rules entry).filterMap (s.blockReceiver? rules entry)).map
      fun receiver => Step.found (s.aliasFinding rules receiver)) →
      ∃ call ∈ s.escapeCalls rules entry, ∃ receiver,
        s.blockReceiver? rules entry call = some receiver ∧ f = s.aliasFinding rules receiver := by
    intro hmem
    obtain ⟨receiver, hreceiver, rfl⟩ := List.mem_map.mp hmem
    obtain ⟨call, hcall, hblock⟩ := List.mem_filterMap.mp hreceiver
    exact ⟨call, hcall, receiver, hblock, (Option.some.inj hfound).symm⟩
  unfold legacySteps at hstep
  dsimp only at hstep
  split at hstep
  · exact .inl (halias hstep)
  · rename_i hcalls
    split at hstep
    · rename_i hlacks
      rcases List.mem_append.mp hstep with hstep | hstep
      · exact .inl (halias hstep)
      · obtain rfl := List.mem_singleton.mp hstep
        refine .inr ⟨fun hnil => hcalls ?_, hlacks, (Option.some.inj hfound).symm⟩
        rw [hnil]
        rfl
    · exact .inl (halias hstep)

theorem not_isOutput_of_mem_legacyFindings {s : Stream} {rules : RuleSet} {checked : Bool}
    {entry : Nat} {f : Finding} (h : f ∈ s.legacyFindings rules checked entry) :
    f.isOutput = false := by
  rcases mem_legacyFindings h with ⟨_, _, _, _, rfl⟩ | ⟨_, _, rfl⟩
  · rfl
  · rfl

/-- Every finding about output is about a leaf of the statement that needs escaping. -/
theorem exists_report {s : Stream} {rules : RuleSet} {entry i : Nat} {f : Finding}
    (h : (s.outputFindings rules entry)[i]? = some f) :
    ∃ x, (s.exposed rules entry)[i]? = some x ∧ f = s.report rules entry
      ⟨(s.gate rules entry).disallows, true⟩ (s.exposed rules entry) i x := by
  have hgate : ∀ comment, s.gate rules entry ≠ .suppressed comment := by
    intro comment hgate
    rw [outputFindings_of_suppressed hgate] at h
    cases h
  rw [outputFindings_eq hgate, List.getElem?_mapIdx] at h
  obtain ⟨x, hx, hf⟩ := Option.map_eq_some_iff.mp h
  exact ⟨x, hx, hf.symm⟩

theorem mem_exposed_iff {s : Stream} {rules : RuleSet} {entry : Nat} {x : Leaf × Nat} :
    x ∈ s.exposed rules entry ↔
      x.1 ∈ (s.statementWalk entry).leaves ∧ s.judge rules x.1 = .unescaped x.2 := by
  rw [exposed, List.mem_filterMap]
  constructor
  · rintro ⟨l, hl, hx⟩
    obtain ⟨rfl, hjudge⟩ := exposed?_eq_some_iff.mp hx
    exact ⟨hl, hjudge⟩
  · rintro ⟨hl, hjudge⟩
    exact ⟨x.1, hl, exposed?_eq_some_iff.mpr ⟨rfl, hjudge⟩⟩

/-- A fix for output is the decision about a leaf that needs escaping. -/
theorem fix_of_mem_outputFindings {s : Stream} {rules : RuleSet} {entry : Nat} {f : Finding}
    {c : Changeset} (h : f ∈ s.outputFindings rules entry) (hfix : f.fix = some c) :
    ∃ l ∈ (s.statementWalk entry).leaves, ∃ anchor, s.judge rules l = .unescaped anchor ∧
      (s.decide rules entry l.first l.last anchor).changeset? rules = some c := by
  obtain ⟨i, hi⟩ := List.mem_iff_getElem?.mp h
  obtain ⟨x, hx, rfl⟩ := exists_report hi
  obtain ⟨hl, hjudge⟩ := mem_exposed_iff.mp (List.mem_of_getElem? hx)
  refine ⟨x.1, hl, x.2, hjudge, ?_⟩
  rw [report] at hfix
  dsimp only at hfix
  split at hfix
  · cases hfix
  · exact hfix

/-- The findings about output come from the statements in order. -/
theorem output_findings_audit (s : Stream) (rules : RuleSet) {a : AnalysisSettings}
    (ha : a.unescapedOutput = true) :
    (s.audit rules a).findings.filter Finding.isOutput =
      s.entryPoints.flatMap (s.outputFindings rules) := by
  have hfold : ∀ (es : List Nat) (audit : Audit),
      (es.foldl (Audit.addEntry s rules a) audit).findings.filter Finding.isOutput =
        audit.findings.filter Finding.isOutput ++ es.flatMap (s.outputFindings rules) := by
    intro es
    induction es with
    | nil => intro audit; simp
    | cons e es ih =>
      intro audit
      have houtput : (s.outputFindings rules e).filter Finding.isOutput =
          s.outputFindings rules e :=
        List.filter_eq_self.mpr (s.outputFindings_cases rules e).1
      have hlegacy : (if a.legacyEscape then s.legacyFindings rules audit.headerChecked e
          else []).filter Finding.isOutput = [] := by
        rw [List.filter_eq_nil_iff]
        intro f hf
        split at hf
        · simp [not_isOutput_of_mem_legacyFindings hf]
        · cases hf
      rw [List.foldl_cons, ih, findings_addEntry, ha, if_pos rfl, List.filter_append,
        List.filter_append, houtput, hlegacy, List.append_nil, List.flatMap_cons, List.append_assoc]
  exact hfold s.entryPoints .empty

/-! ## Where anchors stand -/

theorem isSolid_of_isMember {k : Kind} (h : isMember k = true) : isSolid k = true := by
  cases k <;> first | rfl | cases h

/-- A finding about a leaf is anchored at its first token or at a member behind it. -/
theorem anchor_cases {s : Stream} {rules : RuleSet} {l : Leaf} {i : Nat}
    (h : s.judge rules l = .unescaped i) :
    i = l.first ∨ l.first ≤ i ∧ i < l.range.stop ∧ s.holds isMember i = true := by
  unfold judge at h
  split at h
  · cases h
  · split at h
    · cases h
    · split at h
      · unfold judgeCall at h
        split at h
        · cases h
        · exact .inl (Verdict.unescaped.inj h).symm
      · exact .inl (Verdict.unescaped.inj h).symm
      · unfold judgeVariable at h
        split at h
        · exact .inl (Verdict.unescaped.inj h).symm
        · rename_i operator hoperator
          obtain ⟨hle, _, _⟩ := mem_inScope (lastInScope_mem hoperator)
          split at h
          · cases h
          · rename_i member hmember
            obtain ⟨hstart, hstop, hholds, _⟩ := findNext_eq_some_iff.mp hmember
            split at h
            · cases h
            · obtain rfl := Verdict.unescaped.inj h
              dsimp only at hle
              exact .inr ⟨by omega, hstop, hholds⟩
      · cases h
      · cases h

theorem anchor_solid {s : Stream} {rules : RuleSet} {l : Leaf} {i : Nat}
    (hb : s.Bounds l.range l.first l.last) (h : s.judge rules l = .unescaped i) :
    s.holds isSolid i = true := by
  rcases anchor_cases h with rfl | ⟨_, _, hmember⟩
  · exact hb.first_solid
  · exact holds_imp hmember fun k => isSolid_of_isMember

/-- A finding about a leaf is anchored at a token of the leaf. -/
theorem anchor_within {s : Stream} {rules : RuleSet} {l : Leaf} {i : Nat}
    (hb : s.Bounds l.range l.first l.last) (h : s.judge rules l = .unescaped i) :
    l.first ≤ i ∧ i ≤ l.last := by
  have hsolid := anchor_solid hb h
  rcases anchor_cases h with rfl | ⟨hle, hstop, _⟩
  · exact ⟨Nat.le_refl _, hb.first_le⟩
  · refine ⟨hle, ?_⟩
    -- Behind the last token of the leaf there are only blanks and comments.
    rcases Nat.lt_or_ge l.last i with hlt | hle'
    · rw [hb.after i hlt hstop] at hsolid
      cases hsolid
    · exact hle'

theorem bounds_of_under {s : Stream} {r : Range} {l : Leaf} (h : s.Under r l) :
    s.Bounds l.range l.first l.last := by
  induction h with
  | @leaf r l h =>
    have hb := bounds_of_leaf h
    rcases split_cases s r with hcase | ⟨_, _, _, _, hcase⟩ | ⟨_, _, _, _, hcase⟩ | hcase |
      ⟨first, last, _, hcase⟩
    all_goals rw [h] at hcase
    · cases hcase
    · cases hcase
    · cases hcase
    · cases hcase
    · cases hcase
      exact hb
  | child _ _ ih => exact ih

theorem bounds_of_mem_leaves {s : Stream} {entry : Nat} {l : Leaf}
    (h : l ∈ (s.statementWalk entry).leaves) : s.Bounds l.range l.first l.last :=
  bounds_of_under (under_statementRange h)

/-- The anchors of a statement stand inside it. -/
theorem outputAnchors_within {s : Stream} {rules : RuleSet} {entry i : Nat}
    (h : i ∈ s.outputAnchors rules entry) : entry < i ∧ i < s.statementEnd entry := by
  rcases (s.outputFindings_cases rules entry).2 with hnone | hanchors
  · rw [hnone] at h
    cases h
  · rw [hanchors] at h
    obtain ⟨l, hl, hanchor⟩ := List.mem_filterMap.mp h
    obtain ⟨hfirst, hlast⟩ := anchor_within (bounds_of_mem_leaves hl)
      (anchor?_eq_some_iff.mp hanchor)
    obtain ⟨hlower, _, hupper⟩ := (s.leaves_statementWalk entry).2 l hl
    omega

/-- One statement has no two findings with the same anchor. -/
theorem nodup_outputAnchors (s : Stream) (rules : RuleSet) (entry : Nat) :
    (s.outputAnchors rules entry).Nodup := by
  rcases (s.outputFindings_cases rules entry).2 with hnone | hanchors
  · rw [hnone]
    exact .nil
  · rw [hanchors]
    refine List.Pairwise.filterMap (S := (· ≠ ·)) _ ?_
      ((s.leaves_statementWalk entry).1.imp_of_mem (S := fun l l' =>
        l ∈ (s.statementWalk entry).leaves ∧ l' ∈ (s.statementWalk entry).leaves ∧ l.Apart l')
        fun hl hl' hapart => ⟨hl, hl', hapart⟩)
    rintro l l' ⟨hl, hl', hapart⟩ i hi j hj
    have := anchor_within (bounds_of_mem_leaves hl) (anchor?_eq_some_iff.mp hi)
    have := anchor_within (bounds_of_mem_leaves hl') (anchor?_eq_some_iff.mp hj)
    unfold Leaf.Apart at hapart
    omega

/-- A statement that begins inside another ends with it. -/
theorem statementEnd_of_inside {s : Stream} {e e' : Nat} (hle : e ≤ e')
    (hlt : e' < s.statementEnd e) : s.statementEnd e' = s.statementEnd e := by
  unfold statementEnd at hlt ⊢
  cases hend : s.findNext endsStatement e s.size with
  | none =>
    have hnone : s.findNext endsStatement e' s.size = none :=
      findNext_eq_none_iff.mpr fun k hk => findNext_eq_none_iff.mp hend k (Nat.le_trans hle hk)
    rw [hnone]
  | some j =>
    rw [hend] at hlt
    obtain ⟨_, hsize, hholds, hbefore⟩ := findNext_eq_some_iff.mp hend
    have hsome : s.findNext endsStatement e' s.size = some j :=
      findNext_eq_some_iff.mpr ⟨Nat.le_of_lt hlt, hsize, hholds, fun k hk =>
        hbefore k (Nat.le_trans hle hk)⟩
    rw [hsome]

/-- Of two statements that share an anchor, the later one begins inside the earlier one and ends
with it. -/
theorem nested_of_shared_anchor {s : Stream} {rules : RuleSet} {e e' i : Nat} (hlt : e < e')
    (h : i ∈ s.outputAnchors rules e) (h' : i ∈ s.outputAnchors rules e') :
    e' < s.statementEnd e ∧ s.statementEnd e' = s.statementEnd e := by
  obtain ⟨_, hstop⟩ := outputAnchors_within h
  obtain ⟨hstart, _⟩ := outputAnchors_within h'
  have hinside : e' < s.statementEnd e := by omega
  exact ⟨hinside, statementEnd_of_inside (Nat.le_of_lt hlt) hinside⟩

end Stream

/-- The anchors of the diagnostics about output that is not escaped, in order. -/
def Audit.outputAnchors (a : Audit) : List Nat :=
  (a.diagnostics.filter fun d => d.concern.isOutput).map Diagnostic.token

/-- An audit reports the statements one after the other.  Inside one statement it reports no token
twice.  Two statements can only share a token when the later one begins inside the earlier one, so
where no statement begins inside another, no token is reported twice. -/
theorem anchors_distinct (s : Stream) (rules : RuleSet) {a : AnalysisSettings}
    (ha : a.unescapedOutput = true) :
    (s.audit rules a).outputAnchors = s.entryPoints.flatMap (s.outputAnchors rules) ∧
    (∀ e ∈ s.entryPoints, (s.outputAnchors rules e).Nodup ∧
      ∀ i ∈ s.outputAnchors rules e, e < i ∧ i < s.statementEnd e) ∧
    (∀ e ∈ s.entryPoints, ∀ e' ∈ s.entryPoints, e < e' →
      ∀ i ∈ s.outputAnchors rules e, i ∈ s.outputAnchors rules e' →
        e' < s.statementEnd e ∧ s.statementEnd e' = s.statementEnd e) ∧
    (s.EntriesApart → (s.audit rules a).outputAnchors.Nodup) := by
  have hall : (s.audit rules a).outputAnchors = s.entryPoints.flatMap (s.outputAnchors rules) := by
    have hfindings := s.output_findings_audit rules ha
    calc (s.audit rules a).outputAnchors
        = ((s.audit rules a).findings.filter Finding.isOutput).map
            (fun f => f.diagnostic.token) := by
          rw [Audit.outputAnchors, Audit.diagnostics, List.filter_map, List.map_map]
          rfl
      _ = s.entryPoints.flatMap (s.outputAnchors rules) := by
          rw [hfindings, List.map_flatMap]
          rfl
  refine ⟨hall, fun e _ => ⟨s.nodup_outputAnchors rules e, fun i => Stream.outputAnchors_within⟩,
    fun e _ e' _ hlt i => Stream.nested_of_shared_anchor hlt, fun hapart => ?_⟩
  rw [hall, List.Nodup, List.pairwise_flatMap]
  refine ⟨fun e _ => s.nodup_outputAnchors rules e, ?_⟩
  refine s.pairwise_entryPoints.imp_of_mem fun {e e'} he he' hlt i hi j hj => ?_
  rintro rfl
  obtain ⟨hinside, _⟩ := Stream.nested_of_shared_anchor hlt hi hj
  exact hapart e he e' he' ⟨hlt, hinside⟩

/-- Two statements, one of them with a concatenation, have three anchors. -/
theorem anchors_distinct_two_statements :
    (Lexed.ofSource "<?= $a . $b ?><?php print $a; ?>").stream.EntriesApart ∧
    ((Lexed.ofSource "<?= $a . $b ?><?php print $a; ?>").stream.audit .standard
      ⟨true, true, true⟩).outputAnchors = [2, 6, 12] ∧
    ((Lexed.ofSource "<?= $a . $b ?><?php print $a; ?>").stream.audit .standard
      ⟨true, true, true⟩).outputAnchors.Nodup := by
  have hapart : (Lexed.ofSource "<?= $a . $b ?><?php print $a; ?>").stream.EntriesApart := by
    decide +kernel
  exact ⟨hapart, by decide +kernel, (anchors_distinct _ .standard rfl).2.2.2 hapart⟩

/-- A `print` inside another statement is an entry point of its own, and the rest of the statement is
reported for both. -/
theorem anchors_shared_print :
    ∃ s, tokenize "<?= print $a . $b ?>" = .ok s ∧
      (s.audit .standard ⟨true, true, true⟩).outputAnchors = [8, 4, 8] ∧
      ¬ (s.audit .standard ⟨true, true, true⟩).outputAnchors.Nodup := by
  refine ⟨(Lexed.ofSource "<?= print $a . $b ?>").stream,
    tokenize_of_fault_eq_none (by decide +kernel), by decide +kernel, by decide +kernel⟩

end EscapeAudit
