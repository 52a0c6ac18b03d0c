import EscapeAudit.Proofs.Anchors

/-!
# What is reported about a statement

The rule for output adds to an audit what it finds in one statement and leaves the rest as it is.
An exempt statement adds nothing.  Any other adds one finding for each leaf that needs escaping, in
order.  A comment that exempts nothing is told with the first of them.  Every finding comes with a
changeset of its own, but an `echo` statement is marked only once (`statement_reported`).
-/

namespace EscapeAudit

namespace Stream

/-! ## Changesets -/

/-- Every decision about a leaf can be carried out. -/
theorem exists_changeset (s : Stream) (rules : RuleSet) (entry : Nat) (x : Leaf × Nat) :
    ∃ c, (s.decisionFor rules entry x).changeset? rules = some c := by
  rw [decisionFor, Decision.changeset?, remedy_decide]
  rcases s.remedyFor_cases rules x.1.first (s.text x.2) with hmark | ⟨f, hwrap⟩
  · rw [hmark]
    exact ⟨_, rfl⟩
  · rw [hwrap]
    exact ⟨_, rfl⟩

/-- The mark before the keyword is that of an `echo` statement, because the leaves of a statement
begin behind the token that opens it. -/
theorem marksEntry_iff {s : Stream} {rules : RuleSet} {entry : Nat} {x : Leaf × Nat}
    (hx : x ∈ s.exposed rules entry) :
    s.marksEntry rules entry x = true ↔
      s.kind? entry = some .echo ∧ (s.decisionFor rules entry x).remedy = .mark := by
  have hmarker : (s.decisionFor rules entry x).markerAt = entry ↔ s.kind? entry = some .echo := by
    obtain ⟨hbehind, _⟩ := (s.leaves_statementWalk entry).2 x.1 (mem_exposed_iff.mp hx).1
    show (if (s.kind? entry == some .echo) = true then entry else x.1.first) = entry ↔ _
    split
    · rename_i hecho
      exact iff_of_true rfl (beq_iff_eq.mp hecho)
    · rename_i hecho
      exact iff_of_false (Nat.ne_of_gt hbehind) fun h => hecho (beq_iff_eq.mpr h)
  rw [marksEntry, Bool.and_eq_true, beq_iff_eq, beq_iff_eq, hmarker, and_comm]

/-- A leaf before a number is mended by the mark before the keyword. -/
theorem any_marksEntry_iff {s : Stream} {rules : RuleSet} {entry i : Nat} :
    ((s.exposed rules entry).take i).any (s.marksEntry rules entry) = true ↔
      ∃ j y, j < i ∧ (s.exposed rules entry)[j]? = some y ∧ s.kind? entry = some .echo ∧
        (s.decisionFor rules entry y).remedy = .mark := by
  rw [List.any_eq_true]
  constructor
  · rintro ⟨y, hy, hmarks⟩
    obtain ⟨j, hj⟩ := List.mem_iff_getElem?.mp hy
    have hlt : j < i := by
      have hlength := (List.getElem?_eq_some_iff.mp hj).1
      rw [List.length_take] at hlength
      omega
    rw [List.getElem?_take_of_lt hlt] at hj
    exact ⟨j, y, hlt, hj, (marksEntry_iff (List.mem_of_getElem? hj)).mp hmarks⟩
  · rintro ⟨j, y, hlt, hy, hmarks⟩
    refine ⟨y, ?_, (marksEntry_iff (List.mem_of_getElem? hy)).mpr hmarks⟩
    rw [← List.getElem?_take_of_lt hlt] at hy
    exact List.mem_of_getElem? hy

/-- A finding has no changeset exactly when the mark that it asks for comes with an earlier one. -/
theorem fix_report_eq_none_iff {s : Stream} {rules : RuleSet} {entry i : Nat} {disallowed : Bool}
    {x : Leaf × Nat} (hx : (s.exposed rules entry)[i]? = some x) :
    (s.report rules entry ⟨disallowed, true⟩ (s.exposed rules entry) i x).fix = none ↔
      s.kind? entry = some .echo ∧ (s.decisionFor rules entry x).remedy = .mark ∧
        ∃ j y, j < i ∧ (s.exposed rules entry)[j]? = some y ∧
          (s.decisionFor rules entry y).remedy = .mark := by
  obtain ⟨c, hc⟩ := s.exists_changeset rules entry x
  have hmarks := marksEntry_iff (List.mem_of_getElem? hx)
  rw [report, hc, Bool.not_true, Bool.false_or]
  dsimp only
  constructor
  · intro hnone
    split at hnone
    · rename_i hcond
      obtain ⟨hself, hearlier⟩ := Bool.and_eq_true_iff.mp hcond
      obtain ⟨j, y, hlt, hy, _, hmark⟩ := any_marksEntry_iff.mp hearlier
      obtain ⟨hecho, hself⟩ := hmarks.mp hself
      exact ⟨hecho, hself, j, y, hlt, hy, hmark⟩
    · cases hnone
  · rintro ⟨hecho, hself, j, y, hlt, hy, hmark⟩
    have hearlier := any_marksEntry_iff.mpr ⟨j, y, hlt, hy, hecho, hmark⟩
    exact if_pos (Bool.and_eq_true_iff.mpr ⟨hmarks.mpr ⟨hecho, hself⟩, hearlier⟩)

/-- A changeset that comes with a finding is that of the decision about its leaf. -/
theorem changeset_of_fix_report {s : Stream} {rules : RuleSet} {entry i : Nat} {p : Pending}
    {xs : List (Leaf × Nat)} {x : Leaf × Nat} {c : Changeset}
    (h : (s.report rules entry p xs i x).fix = some c) :
    (s.decisionFor rules entry x).changeset? rules = some c := by
  rw [report] at h
  dsimp only at h
  split at h
  · cases h
  · exact h

end Stream

/-- What the rule for output adds to an audit.  What was found before stays.  An exempt statement
adds nothing, and any other adds one finding for each leaf that needs escaping.  The concern is that
output is not escaped, but where a comment exempts nothing the first finding says so.  Each finding is
anchored at a token of its own leaf that is no trivia.  It comes with the changeset for its leaf,
unless it asks for a mark in an `echo` statement and an earlier finding does too. -/
theorem statement_reported (s : Stream) (rules : RuleSet) (audit : Audit) (entry : Nat) :
    (Audit.addOutput s rules audit entry).diagnostics =
      audit.diagnostics ++ (s.outputFindings rules entry).map Finding.diagnostic ∧
    (Audit.addOutput s rules audit entry).changesets =
      audit.changesets ++ (s.outputFindings rules entry).filterMap Finding.fix ∧
    (∀ comment, s.gate rules entry = .suppressed comment → s.outputFindings rules entry = []) ∧
    ((∀ comment, s.gate rules entry ≠ .suppressed comment) →
      (s.outputFindings rules entry).length = (s.exposed rules entry).length) ∧
    ∀ i f, (s.outputFindings rules entry)[i]? = some f →
      f.diagnostic.concern = (if i = 0 ∧ (s.gate rules entry).disallows = true
        then .disallowedComment else .unescaped) ∧
      ∃ l anchor, (s.exposed rules entry)[i]? = some (l, anchor) ∧
        f.diagnostic.token = anchor ∧ f.diagnostic.span = s.span anchor ∧
        l.first ≤ anchor ∧ anchor ≤ l.last ∧ anchor < s.size ∧
        s.holds Stream.isSolid anchor = true ∧
        (f.fix = none ↔ s.kind? entry = some .echo ∧
          (s.decisionFor rules entry (l, anchor)).remedy = .mark ∧
          ∃ j x, j < i ∧ (s.exposed rules entry)[j]? = some x ∧
            (s.decisionFor rules entry x).remedy = .mark) ∧
        ∀ c, f.fix = some c →
          (s.decisionFor rules entry (l, anchor)).changeset? rules = some c := by
  have hfindings : (Audit.addOutput s rules audit entry).findings =
      audit.findings ++ s.outputFindings rules entry := by
    simp [Audit.addOutput, Audit.findings, Stream.outputFindings]
  refine ⟨?_, ?_, fun comment => Stream.outputFindings_of_suppressed, ?_, ?_⟩
  · rw [Audit.diagnostics, hfindings, List.map_append, Audit.diagnostics]
  · rw [Audit.changesets, hfindings, List.filterMap_append, Audit.changesets]
  · intro hgate
    rw [Stream.outputFindings_eq hgate, List.length_mapIdx]
  · intro i f hf
    obtain ⟨x, hx, rfl⟩ := Stream.exists_report hf
    obtain ⟨hleaf, hjudge⟩ := Stream.mem_exposed_iff.mp (List.mem_of_getElem? hx)
    have hbounds := Stream.bounds_of_mem_leaves hleaf
    obtain ⟨hfirst, hlast⟩ := Stream.anchor_within hbounds hjudge
    have hsolid := Stream.anchor_solid hbounds hjudge
    refine ⟨?_, x.1, x.2, hx, rfl, rfl, hfirst, hlast, Stream.lt_size_of_holds hsolid, hsolid,
      Stream.fix_report_eq_none_iff hx, fun c => Stream.changeset_of_fix_report⟩
    show (if ((s.gate rules entry).disallows && i == 0) = true then Concern.disallowedComment
      else .unescaped) = _
    simp only [Bool.and_eq_true, beq_iff_eq, and_comm]

/-- The third leaf of an `echo` asks for the mark that comes with the first, and the comment that
exempts nothing is told only once. -/
theorem statement_reported_second_mark :
    ∃ f, ((Lexed.ofSource "<?php /**/echo $json.$a.$json;").stream.outputFindings .standard 2)[2]? =
        some f ∧
      f.diagnostic.concern = .unescaped ∧ f.diagnostic.token = 8 ∧ f.fix = none := by
  have htoken : ((Lexed.ofSource "<?php /**/echo $json.$a.$json;").stream.outputFindings
      .standard 2)[2]?.map (fun f => f.diagnostic.token) = some 8 := by
    decide +kernel
  have hexposed : (Lexed.ofSource "<?php /**/echo $json.$a.$json;").stream.exposed .standard 2 =
      [(⟨⟨3, 5⟩, 4, 4⟩, 4), (⟨⟨6, 7⟩, 6, 6⟩, 6), (⟨⟨8, 9⟩, 8, 8⟩, 8)] := by
    decide +kernel
  obtain ⟨f, hf, htoken⟩ := Option.map_eq_some_iff.mp htoken
  obtain ⟨hconcern, l, anchor, hl, _, _, _, _, _, _, hfix, _⟩ :=
    (statement_reported _ .standard .empty 2).2.2.2.2 2 f hf
  rw [hexposed] at hl hfix
  cases hl
  refine ⟨f, hf, hconcern, htoken, hfix.mpr ⟨?_, ?_, 0, _, Nat.zero_lt_two, rfl, ?_⟩⟩
  · decide +kernel
  · decide +kernel
  · decide +kernel

end EscapeAudit
