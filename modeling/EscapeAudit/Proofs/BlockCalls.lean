import EscapeAudit.Proofs.Independence
import EscapeAudit.Proofs.Receivers

/-!
# What is reported about calls on the block

The rule for escaping through the block looks at the statements one by one, and statements may
overlap.  What it reports is said here over the whole template.  There is one finding for every call
of an escaping method in a statement whose nearest receiver in that statement is `$block`.  The
header is reported once if some statement has such a call at all, whichever comes first.

The audit remembers whether the header has been looked at.  `Reported` ties what it remembers and what
it has reported to the statements looked at so far.  One more statement keeps it
(`Reported.addEntry`), and so it holds for the whole template.
-/

namespace EscapeAudit

/-! ## Calls and receivers -/

/-- A call on `$block` in the statement of an entry point. -/
structure BlockCall where
  /-- The entry point. -/
  entry : Nat
  /-- The escaping method. -/
  call : Nat
  /-- The `$block` that it is called on. -/
  receiver : Nat

/-- The order of calls: by statement, then by place. -/
def BlockCall.Before (c d : BlockCall) : Prop :=
  c.entry < d.entry ∨ c.entry = d.entry ∧ c.call < d.call

namespace Stream

/-- A token names an escaping method in the statement of an entry point. -/
structure EscapeCall (s : Stream) (rules : RuleSet) (entry call : Nat) : Prop where
  /-- The statement has an entry point. -/
  opens : entry ∈ s.entryPoints
  /-- The method stands in the statement. -/
  behind : entry ≤ call
  /-- It stands before the end of the statement. -/
  within : call < s.statementEnd entry
  /-- It is an escaping method. -/
  method : rules.isLegacyEscapeMethod (s.text call) = true

/-- The nearest receiver before a call, not before the entry point, is a `$block`. -/
structure ReceivedBy (s : Stream) (rules : RuleSet) (entry call receiver : Nat) : Prop where
  /-- It does not stand before the entry point. -/
  behind : entry ≤ receiver
  /-- It stands before the call. -/
  before : receiver < call
  /-- It is `$block`. -/
  block : s.text receiver = blockAccessor
  /-- No receiver is nearer. -/
  nearest : ∀ i, receiver < i → i < call →
    s.text i ≠ blockAccessor ∧ s.text i ≠ rules.escaperAccessor

/-- The template begins with an open tag, and no token before the first close tag names the class of
the escaper. -/
structure Undeclared (s : Stream) : Prop where
  /-- It begins with an open tag. -/
  opens : s.kind? 0 = some .openTag
  /-- No token of the header names the class. -/
  unnamed : ∀ i, i < s.size → (∀ j, j ≤ i → s.kind? j ≠ some .closeTag) →
    ¬ escaperClass.toList <:+: (s.text i).toList

variable {s : Stream} {rules : RuleSet}

theorem escapeCall_iff {entry call : Nat} :
    s.EscapeCall rules entry call ↔ entry ∈ s.entryPoints ∧ call ∈ s.escapeCalls rules entry := by
  rw [mem_escapeCalls_iff]
  constructor
  · intro h
    exact ⟨h.opens, h.behind, h.within, h.method⟩
  · rintro ⟨hopens, hbehind, hwithin, hmethod⟩
    exact ⟨hopens, hbehind, hwithin, hmethod⟩

theorem isReceiver_eq_false_iff {i : Nat} :
    s.isReceiver rules i = false ↔ s.text i ≠ blockAccessor ∧ s.text i ≠ rules.escaperAccessor := by
  rw [isReceiver, Bool.or_eq_false_iff, beq_eq_false_iff_ne, beq_eq_false_iff_ne]

theorem receivedBy_iff {entry call receiver : Nat} :
    s.ReceivedBy rules entry call receiver ↔ s.blockReceiver? rules entry call = some receiver := by
  constructor
  · intro h
    have hbehind := h.behind
    have hbefore := h.before
    have hlast : lastIn (s.isReceiver rules) entry call = some receiver := by
      refine lastFrom_eq_some_iff.mpr ⟨hbehind, by omega, ?_, ?_⟩
      · rw [isReceiver, h.block, beq_self_eq_true, Bool.true_or]
      · intro i hlower hupper
        exact isReceiver_eq_false_iff.mpr (h.nearest i hlower (by omega))
    rw [blockReceiver?, hlast]
    exact if_pos (beq_iff_eq.mpr h.block)
  · intro h
    obtain ⟨hlast, hblock⟩ := blockReceiver?_eq_some h
    obtain ⟨hbehind, hbefore, _, hnearest⟩ := lastFrom_eq_some_iff.mp hlast
    refine ⟨hbehind, by omega, hblock, ?_⟩
    intro i hlower hupper
    exact isReceiver_eq_false_iff.mp (hnearest i hlower (by omega))

/-! ## The header -/

theorem closeTag_holds_iff {i : Nat} :
    s.holds (· == .closeTag) i = true ↔ s.kind? i = some .closeTag := by
  rw [holds_iff]
  constructor
  · rintro ⟨k, hk, hclose⟩
    rw [hk, beq_iff_eq.mp hclose]
  · intro hclose
    exact ⟨.closeTag, hclose, rfl⟩

/-- The header is the tokens with no close tag before or at them. -/
theorem lt_headerEnd_iff {i : Nat} :
    i < s.headerEnd ↔ i < s.size ∧ ∀ j, j ≤ i → s.kind? j ≠ some .closeTag := by
  rw [headerEnd]
  cases hnext : s.findNext (· == .closeTag) 0 s.size with
  | none =>
    have hnone := findNext_eq_none_iff.mp hnext
    constructor
    · intro hlt
      refine ⟨hlt, ?_⟩
      intro j hj hclose
      have hfalse := hnone j (Nat.zero_le j) (Nat.lt_of_le_of_lt hj hlt)
      rw [closeTag_holds_iff.mpr hclose] at hfalse
      cases hfalse
    · rintro ⟨hlt, _⟩
      exact hlt
  | some stop =>
    obtain ⟨_, hsize, hclose, hbefore⟩ := findNext_eq_some_iff.mp hnext
    show i < stop ↔ _
    constructor
    · intro hlt
      refine ⟨Nat.lt_trans hlt hsize, ?_⟩
      intro j hj hkind
      have hfalse := hbefore j (Nat.zero_le j) (Nat.lt_of_le_of_lt hj hlt)
      rw [closeTag_holds_iff.mpr hkind] at hfalse
      cases hfalse
    · rintro ⟨_, hnone⟩
      rcases Nat.lt_or_ge i stop with hlt | hge
      · exact hlt
      · exact absurd (closeTag_holds_iff.mp hclose) (hnone stop hge)

theorem undeclared_iff : s.Undeclared ↔ s.lacksDeclaration = true := by
  rw [lacksDeclaration, Bool.and_eq_true, beq_iff_eq, Option.isNone_iff_eq_none, firstIn,
    firstFrom_eq_none_iff]
  constructor
  · intro h
    refine ⟨h.opens, ?_⟩
    intro i _ hlt
    obtain ⟨hsize, hheader⟩ := lt_headerEnd_iff.mp (show i < s.headerEnd by omega)
    rw [← Bool.not_eq_true]
    intro hcontains
    exact h.unnamed i hsize hheader (Text.occurs_iff.mp hcontains)
  · rintro ⟨hopens, hnone⟩
    refine ⟨hopens, ?_⟩
    intro i hsize hheader hinfix
    have hlt := lt_headerEnd_iff.mpr ⟨hsize, hheader⟩
    have hfalse := hnone i (Nat.zero_le i) (by omega)
    rw [Text.contains, Text.occurs_iff.mpr hinfix] at hfalse
    cases hfalse

/-! ## The calls of a template -/

/-- The calls on `$block` in the statement of an entry point, in order. -/
def blockCalls (s : Stream) (rules : RuleSet) (entry : Nat) : List BlockCall :=
  (s.escapeCalls rules entry).filterMap fun call =>
    (s.blockReceiver? rules entry call).map fun receiver => ⟨entry, call, receiver⟩

theorem mem_blockCalls_iff {entry : Nat} {c : BlockCall} :
    c ∈ s.blockCalls rules entry ↔ c.entry = entry ∧ c.call ∈ s.escapeCalls rules entry ∧
      s.ReceivedBy rules entry c.call c.receiver := by
  rw [blockCalls, List.mem_filterMap]
  constructor
  · rintro ⟨call, hcall, h⟩
    obtain ⟨receiver, hreceiver, rfl⟩ := Option.map_eq_some_iff.mp h
    exact ⟨rfl, hcall, receivedBy_iff.mpr hreceiver⟩
  · rintro ⟨rfl, hcall, hreceived⟩
    refine ⟨c.call, hcall, ?_⟩
    rw [receivedBy_iff.mp hreceived]
    rfl

/-- The calls of a template on `$block`, statement by statement, are those with a `$block` as their
nearest receiver. -/
theorem mem_flatMap_blockCalls_iff {c : BlockCall} :
    c ∈ s.entryPoints.flatMap (s.blockCalls rules) ↔
      s.EscapeCall rules c.entry c.call ∧ s.ReceivedBy rules c.entry c.call c.receiver := by
  rw [List.mem_flatMap, escapeCall_iff]
  constructor
  · rintro ⟨entry, hentry, hc⟩
    obtain ⟨rfl, hcall, hreceived⟩ := mem_blockCalls_iff.mp hc
    exact ⟨⟨hentry, hcall⟩, hreceived⟩
  · rintro ⟨⟨hentry, hcall⟩, hreceived⟩
    exact ⟨c.entry, hentry, mem_blockCalls_iff.mpr ⟨rfl, hcall, hreceived⟩⟩

theorem pairwise_blockCalls (s : Stream) (rules : RuleSet) (entry : Nat) :
    (s.blockCalls rules entry).Pairwise BlockCall.Before := by
  rw [blockCalls, List.pairwise_filterMap]
  have hsorted : (s.escapeCalls rules entry).Pairwise (· < ·) :=
    List.Pairwise.filter _ List.pairwise_lt_range'
  refine hsorted.imp ?_
  intro call call' hlt c hc d hd
  obtain ⟨_, _, rfl⟩ := Option.map_eq_some_iff.mp hc
  obtain ⟨_, _, rfl⟩ := Option.map_eq_some_iff.mp hd
  exact .inr ⟨rfl, hlt⟩

theorem pairwise_flatMap_blockCalls (s : Stream) (rules : RuleSet) :
    (s.entryPoints.flatMap (s.blockCalls rules)).Pairwise BlockCall.Before := by
  rw [List.pairwise_flatMap]
  refine ⟨fun entry _ => s.pairwise_blockCalls rules entry, s.pairwise_entryPoints.imp ?_⟩
  intro entry entry' hlt c hc d hd
  obtain ⟨rfl, _⟩ := mem_blockCalls_iff.mp hc
  obtain ⟨rfl, _⟩ := mem_blockCalls_iff.mp hd
  exact .inl hlt

end Stream

/-! ## What one statement adds -/

/-- Whether a finding has a concern. -/
def Finding.isAbout (concern : Concern) (f : Finding) : Bool := f.diagnostic.concern == concern

namespace Stream

variable {s : Stream} {rules : RuleSet}

theorem headerChecked_legacySteps (s : Stream) (rules : RuleSet) (checked : Bool) (entry : Nat) :
    (s.legacySteps rules checked entry).2 = (checked || !(s.escapeCalls rules entry).isEmpty) := by
  rw [legacySteps]
  cases (s.escapeCalls rules entry).isEmpty <;> cases checked <;> cases s.lacksDeclaration <;> rfl

/-- The calls on `$block` come first, and then the header if it has not been looked at. -/
theorem legacyFindings_eq (s : Stream) (rules : RuleSet) (checked : Bool) (entry : Nat) :
    s.legacyFindings rules checked entry =
      (s.blockCalls rules entry).map (fun c => s.aliasFinding rules c.receiver) ++
        if !checked && !(s.escapeCalls rules entry).isEmpty && s.lacksDeclaration
        then [s.headerFinding] else [] := by
  have haliases : (((s.escapeCalls rules entry).filterMap (s.blockReceiver? rules entry)).map
      fun receiver => Step.found (s.aliasFinding rules receiver)).filterMap Step.finding? =
      (s.blockCalls rules entry).map (fun c => s.aliasFinding rules c.receiver) := by
    rw [List.filterMap_map, blockCalls, List.map_filterMap, List.filterMap_filterMap]
    refine List.filterMap_congr ?_
    intro call _
    cases s.blockReceiver? rules entry call <;> rfl
  rw [← haliases, legacyFindings, legacySteps]
  cases (s.escapeCalls rules entry).isEmpty <;> cases checked <;> cases s.lacksDeclaration <;>
    simp [Step.finding?]

theorem filter_isAbout_outputFindings {concern : Concern} (h : concern.isOutput = false)
    (entry : Nat) : (s.outputFindings rules entry).filter (Finding.isAbout concern) = [] := by
  rw [List.filter_eq_nil_iff]
  intro f hf hconcern
  have houtput := (s.outputFindings_cases rules entry).1 f hf
  rw [Finding.isOutput, beq_iff_eq.mp hconcern, h] at houtput
  cases houtput

theorem filter_isAbout_deprecatedEscape (checked : Bool) (entry : Nat) :
    (s.legacyFindings rules checked entry).filter (Finding.isAbout .deprecatedEscape) =
      (s.blockCalls rules entry).map fun c => s.aliasFinding rules c.receiver := by
  have hheader : (if !checked && !(s.escapeCalls rules entry).isEmpty && s.lacksDeclaration
      then [s.headerFinding] else []).filter (Finding.isAbout .deprecatedEscape) = [] := by
    split <;> rfl
  rw [legacyFindings_eq, List.filter_append, hheader, List.append_nil, List.filter_eq_self]
  intro f hf
  obtain ⟨c, _, rfl⟩ := List.mem_map.mp hf
  rfl

theorem filter_isAbout_missingDeclaration (checked : Bool) (entry : Nat) :
    (s.legacyFindings rules checked entry).filter (Finding.isAbout .missingDeclaration) =
      if !checked && !(s.escapeCalls rules entry).isEmpty && s.lacksDeclaration
      then [s.headerFinding] else [] := by
  have haliases : ((s.blockCalls rules entry).map fun c => s.aliasFinding rules c.receiver).filter
      (Finding.isAbout .missingDeclaration) = [] := by
    rw [List.filter_eq_nil_iff]
    intro f hf
    obtain ⟨c, _, rfl⟩ := List.mem_map.mp hf
    exact Bool.false_ne_true
  rw [legacyFindings_eq, List.filter_append, haliases, List.nil_append]
  split <;> rfl

end Stream

/-! ## What the audit has reported -/

namespace Audit

/-- What an audit remembers and has reported about calls on the block, behind the statements of some
entry points. -/
structure Reported (s : Stream) (rules : RuleSet) (audit : Audit) (seen : List Nat) : Prop where
  /-- The header has been looked at if one of the statements has an escaping call. -/
  header : audit.headerChecked = seen.any fun entry => !(s.escapeCalls rules entry).isEmpty
  /-- The header is reported if it has been looked at and lacks the declaration. -/
  declaration : audit.findings.filter (Finding.isAbout .missingDeclaration) =
    if audit.headerChecked && s.lacksDeclaration then [s.headerFinding] else []
  /-- Every call on `$block` in one of the statements is reported. -/
  aliases : audit.findings.filter (Finding.isAbout .deprecatedEscape) =
    (seen.flatMap (s.blockCalls rules)).map fun c => s.aliasFinding rules c.receiver

namespace Reported

variable {s : Stream} {rules : RuleSet} {audit : Audit} {seen : List Nat}

theorem empty : Reported s rules .empty [] := ⟨rfl, rfl, rfl⟩

theorem addEntry (h : Reported s rules audit seen) (output fixing : Bool) (entry : Nat) :
    Reported s rules (Audit.addEntry s rules ⟨output, true, fixing⟩ audit entry)
      (seen ++ [entry]) := by
  have hoff : ∀ concern, concern.isOutput = false →
      (if output then s.outputFindings rules entry else []).filter (Finding.isAbout concern) =
        [] := by
    intro concern hconcern
    split
    · exact Stream.filter_isAbout_outputFindings hconcern entry
    · rfl
  have hheader : (Audit.addEntry s rules ⟨output, true, fixing⟩ audit entry).headerChecked =
      (audit.headerChecked || !(s.escapeCalls rules entry).isEmpty) := by
    rw [headerChecked_addEntry, if_pos rfl, Stream.headerChecked_legacySteps]
  have hfindings : (Audit.addEntry s rules ⟨output, true, fixing⟩ audit entry).findings =
      audit.findings ++ ((if output then s.outputFindings rules entry else []) ++
        s.legacyFindings rules audit.headerChecked entry) := by
    rw [Stream.findings_addEntry]
    rfl
  refine ⟨?_, ?_, ?_⟩
  · rw [hheader, h.header, List.any_append, List.any_cons, List.any_nil, Bool.or_false]
  · rw [hfindings, List.filter_append, List.filter_append, h.declaration, hoff _ rfl,
      List.nil_append, Stream.filter_isAbout_missingDeclaration, hheader]
    -- The header is new here exactly when no statement before has had a call.
    cases audit.headerChecked <;> cases (s.escapeCalls rules entry).isEmpty <;>
      cases s.lacksDeclaration <;> rfl
  · rw [hfindings, List.filter_append, List.filter_append, h.aliases, hoff _ rfl,
      List.nil_append, Stream.filter_isAbout_deprecatedEscape, List.flatMap_append,
      List.flatMap_singleton, List.map_append]

theorem foldl (h : Reported s rules audit seen) (output fixing : Bool) (entries : List Nat) :
    Reported s rules (entries.foldl (Audit.addEntry s rules ⟨output, true, fixing⟩) audit)
      (seen ++ entries) := by
  induction entries generalizing audit seen with
  | nil =>
    rw [List.append_nil]
    exact h
  | cons entry rest ih =>
    have hrest := ih (h.addEntry output fixing entry)
    rwa [List.append_assoc] at hrest

/-- Behind all statements the header has been looked at if the template has an escaping call. -/
theorem headerChecked_iff (h : Reported s rules audit s.entryPoints) :
    audit.headerChecked = true ↔ ∃ entry call, s.EscapeCall rules entry call := by
  rw [h.header, List.any_eq_true]
  constructor
  · rintro ⟨entry, hentry, hcalls⟩
    rw [Bool.not_eq_true', List.isEmpty_eq_false_iff_exists_mem] at hcalls
    obtain ⟨call, hcall⟩ := hcalls
    exact ⟨entry, call, Stream.escapeCall_iff.mpr ⟨hentry, hcall⟩⟩
  · rintro ⟨entry, call, h⟩
    obtain ⟨hentry, hcall⟩ := Stream.escapeCall_iff.mp h
    refine ⟨entry, hentry, ?_⟩
    rw [Bool.not_eq_true', List.isEmpty_eq_false_iff_exists_mem]
    exact ⟨call, hcall⟩

end Reported

theorem reported_audit (s : Stream) (rules : RuleSet) (output fixing : Bool) :
    Reported s rules (s.audit rules ⟨output, true, fixing⟩) s.entryPoints :=
  Reported.empty.foldl output fixing s.entryPoints

theorem filter_concern_diagnostics (audit : Audit) (concern : Concern) :
    audit.diagnostics.filter (·.concern == concern) =
      (audit.findings.filter (Finding.isAbout concern)).map Finding.diagnostic := by
  rw [diagnostics, List.filter_map]
  rfl

end Audit

/-- What the rule for escaping through the block reports about a template, with or without the rule
for output beside it.  The missing declaration is reported at most once and at the first token, and it
is reported exactly when some statement has an escaping call and the header lacks the declaration.  A
call on `$block` is reported at that `$block`, once for each statement that the call stands in, and
nothing else is. -/
theorem block_calls_reported (s : Stream) (rules : RuleSet) (output fixing : Bool) :
    (Diagnostic.count .missingDeclaration (s.audit rules ⟨output, true, fixing⟩).diagnostics ≤ 1 ∧
      (∀ d ∈ (s.audit rules ⟨output, true, fixing⟩).diagnostics,
        d.concern = .missingDeclaration → d = .at_ s .missingDeclaration 0) ∧
      (Diagnostic.count .missingDeclaration
          (s.audit rules ⟨output, true, fixing⟩).diagnostics = 1 ↔
        (∃ entry call, s.EscapeCall rules entry call) ∧ s.Undeclared)) ∧
    ∃ calls : List BlockCall, calls.Pairwise BlockCall.Before ∧
      (∀ c, c ∈ calls ↔
        s.EscapeCall rules c.entry c.call ∧ s.ReceivedBy rules c.entry c.call c.receiver) ∧
      (s.audit rules ⟨output, true, fixing⟩).diagnostics.filter
          (·.concern == .deprecatedEscape) =
        calls.map fun c => .at_ s .deprecatedEscape c.receiver := by
  have hreported := Audit.reported_audit s rules output fixing
  have hheader : (s.audit rules ⟨output, true, fixing⟩).diagnostics.filter
      (·.concern == .missingDeclaration) =
      if (s.audit rules ⟨output, true, fixing⟩).headerChecked && s.lacksDeclaration
      then [.at_ s .missingDeclaration 0] else [] := by
    rw [Audit.filter_concern_diagnostics, hreported.declaration]
    split <;> rfl
  refine ⟨⟨?_, ?_, ?_⟩, s.entryPoints.flatMap (s.blockCalls rules),
    s.pairwise_flatMap_blockCalls rules, fun c => Stream.mem_flatMap_blockCalls_iff, ?_⟩
  · rw [Diagnostic.count, List.countP_eq_length_filter, hheader]
    split
    · exact Nat.le_refl 1
    · exact Nat.zero_le 1
  · intro d hd hconcern
    have hmem : d ∈ (s.audit rules ⟨output, true, fixing⟩).diagnostics.filter
        (·.concern == .missingDeclaration) := List.mem_filter.mpr ⟨hd, beq_iff_eq.mpr hconcern⟩
    rw [hheader] at hmem
    split at hmem
    · exact List.mem_singleton.mp hmem
    · cases hmem
  · rw [Diagnostic.count, List.countP_eq_length_filter, hheader, ← hreported.headerChecked_iff,
      Stream.undeclared_iff, ← Bool.and_eq_true]
    split
    next h => exact iff_of_true rfl h
    next h => exact iff_of_false (Nat.succ_ne_zero 0).symm h
  · rw [Audit.filter_concern_diagnostics, hreported.aliases, List.map_map]
    rfl

/-- A call that stands in two statements.  In the outer one it is received by `$block`, and in the
inner one by nothing, so it is reported once, and the header is too. -/
theorem block_calls_reported_overlap :
    ∃ s, tokenize "<?php echo $block . print escapeHtml($a);" = .ok s ∧
      s.EscapeCall .standard 1 9 ∧ s.EscapeCall .standard 7 9 ∧ s.Undeclared ∧
      Diagnostic.count .missingDeclaration (s.audit .standard ⟨true, true, false⟩).diagnostics = 1 ∧
      s.ReceivedBy .standard 1 9 3 ∧ (∀ receiver, ¬ s.ReceivedBy .standard 7 9 receiver) ∧
      .at_ s .deprecatedEscape 3 ∈ (s.audit .standard ⟨true, true, false⟩).diagnostics := by
  obtain ⟨s, hs⟩ : ∃ s, s = (Lexed.ofSource "<?php echo $block . print escapeHtml($a);").stream :=
    ⟨_, rfl⟩
  have hok : tokenize "<?php echo $block . print escapeHtml($a);" = .ok s :=
    hs ▸ tokenize_of_fault_eq_none (by decide +kernel)
  obtain ⟨houter, hinner, hlacks, hblock, hnone⟩ :
      (1 ∈ s.entryPoints ∧ 9 ∈ s.escapeCalls .standard 1) ∧
      (7 ∈ s.entryPoints ∧ 9 ∈ s.escapeCalls .standard 7) ∧ s.lacksDeclaration = true ∧
      s.blockReceiver? .standard 1 9 = some 3 ∧ s.blockReceiver? .standard 7 9 = none := by
    rw [hs]
    decide +kernel
  have hcall := Stream.escapeCall_iff.mpr houter
  have hreceived := Stream.receivedBy_iff.mpr hblock
  have hundeclared := Stream.undeclared_iff.mpr hlacks
  obtain ⟨⟨_, _, hheader⟩, calls, _, hcalls, hfound⟩ :=
    block_calls_reported s .standard true false
  refine ⟨s, hok, hcall, Stream.escapeCall_iff.mpr hinner, hundeclared,
    hheader.mpr ⟨⟨1, 9, hcall⟩, hundeclared⟩, hreceived, ?_, ?_⟩
  · intro receiver h
    rw [Stream.receivedBy_iff, hnone] at h
    cases h
  · refine List.mem_of_mem_filter (p := (·.concern == .deprecatedEscape)) ?_
    rw [hfound]
    exact List.mem_map.mpr ⟨⟨1, 9, 3⟩, (hcalls _).mpr ⟨hcall, hreceived⟩, rfl⟩

end EscapeAudit
