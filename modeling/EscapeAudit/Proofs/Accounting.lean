import EscapeAudit.Proofs.Targets
import Mathlib.Data.Finset.Card

/-!
# What becomes of changesets

A draft refuses a changeset only for a replacement of a token that is already replaced.  So it matters
what the findings of an audit can ask for (`Finding.Accountable`).  A finding about output or about
the header asks for insertions at tokens that exist, if it asks for anything, and these are never
refused.  A finding about a call on the block asks for the replacement of the receiver it is anchored
at.  Several calls may have one receiver, and then only the first of them has its changeset
accepted.

`Draft.Ledger` is what a draft and the findings taken so far have to do with each other.  Every
finding keeps it (`Ledger.submit`), so it holds at the end of an audit, and the numbers that a check
gives back can be read off it (`changesets_accounted`).
-/

namespace EscapeAudit

/-- The receiver that a call on the block is reported at. -/
def Diagnostic.receiver? (d : Diagnostic) : Option Nat :=
  if d.concern = .deprecatedEscape then some d.token else none

/-- The receivers of the calls on the block that are reported, in order. -/
def receivers (ds : List Diagnostic) : List Nat := ds.filterMap Diagnostic.receiver?

theorem length_receivers (ds : List Diagnostic) :
    (receivers ds).length = Diagnostic.count .deprecatedEscape ds := by
  unfold receivers Diagnostic.count
  induction ds with
  | nil => rfl
  | cons d ds ih =>
    by_cases hd : d.concern = .deprecatedEscape
    · simp [Diagnostic.receiver?, hd, ih]
    · simp [Diagnostic.receiver?, hd, ih]

/-! ## The findings of an audit -/

/-- What a finding can ask for, in a stream of a given size. -/
inductive Finding.Accountable (size : Nat) (f : Finding) : Prop where
  /-- Nothing. -/
  | nothing : f.diagnostic.concern ≠ .deprecatedEscape → f.fix = none → Accountable size f
  /-- Insertions at tokens that exist. -/
  | inserts {c : Changeset} : f.diagnostic.concern ≠ .deprecatedEscape → f.fix = some c →
    c.edits ≠ [] → (∀ e ∈ c.edits, e.isInsertion = true ∧ e.token < size) → Accountable size f
  /-- The replacement of the token that it is anchored at. -/
  | replaces {text : String} : f.diagnostic.concern = .deprecatedEscape →
    f.fix = some ⟨[.replace f.diagnostic.token text]⟩ → f.diagnostic.token < size →
    Accountable size f

namespace Stream

theorem WithinStatement.lt_size {s : Stream} {entry i : Nat} (h : s.WithinStatement entry i)
    (hentry : entry ∈ s.entryPoints) : i < s.size := by
  have hsize : entry < s.size := List.mem_range.mp (List.mem_filter.mp hentry).1
  rcases h with ⟨_, hend⟩ | ⟨_, rfl⟩
  · exact Nat.lt_of_lt_of_le hend (s.statementEnd_le_size entry)
  · exact hsize

theorem accountable_of_mem_findings {s : Stream} {rules : RuleSet} {a : AnalysisSettings}
    {f : Finding} (h : f ∈ (s.audit rules a).findings) : f.Accountable s.size := by
  obtain ⟨entry, hentry, ⟨_, hf⟩ | ⟨_, checked, hf⟩⟩ := mem_findings_audit h
  · have houtput : f.diagnostic.concern ≠ .deprecatedEscape := by
      intro hconcern
      have hout := (s.outputFindings_cases rules entry).1 f hf
      rw [Finding.isOutput, hconcern] at hout
      cases hout
    cases hfix : f.fix with
    | none => exact .nothing houtput hfix
    | some c =>
      obtain ⟨hne, hedits⟩ := edits_of_mem_outputFindings hf hfix
      exact .inserts houtput hfix hne fun e he =>
        ⟨(hedits e he).1, (hedits e he).2.lt_size hentry⟩
  · rcases mem_legacyFindings hf with ⟨call, hcall, receiver, hreceiver, rfl⟩ | ⟨_, hlacks, rfl⟩
    · obtain ⟨_, hlt, _⟩ := lastFrom_eq_some_iff.mp (blockReceiver?_eq_some hreceiver).1
      obtain ⟨_, hend, _⟩ := mem_escapeCalls_iff.mp hcall
      have hsize := s.statementEnd_le_size entry
      have hrange : receiver < s.size := by omega
      exact .replaces rfl rfl hrange
    · have hopen : s.kind? 0 = some .openTag := by
        simpa using (Bool.and_eq_true_iff.mp hlacks).1
      have hholds : s.holds (· == .openTag) 0 = true := holds_iff.mpr ⟨.openTag, hopen, rfl⟩
      have hrange : 0 < s.size := lt_size_of_holds hholds
      refine .inserts (fun hconcern => by cases hconcern) rfl (by simp) fun e he => ?_
      obtain rfl := List.mem_singleton.mp he
      exact ⟨rfl, hrange⟩

end Stream

namespace Draft

/-! ## One changeset -/

/-- Whether a token is replaced. -/
def replacedAt (patches : Array Patch) (i : Nat) : Bool :=
  (patches[i]?.bind Patch.replacement).isSome

theorem replacedAt_insertion (patches : Array Patch) {e : Edit} (he : e.isInsertion = true)
    (i : Nat) : replacedAt (patched patches e) i = replacedAt patches i := by
  rw [replacedAt, patched, Array.getElem?_modify, replacedAt]
  split
  · cases e with
    | insertBefore => cases patches[i]? <;> rfl
    | insertAfter => cases patches[i]? <;> rfl
    | replace => cases he
  · rfl

theorem replacedAt_insertions (patches : Array Patch) {edits : List Edit}
    (h : ∀ e ∈ edits, e.isInsertion = true) (i : Nat) :
    replacedAt (edits.foldl patched patches) i = replacedAt patches i := by
  induction edits generalizing patches with
  | nil => rfl
  | cons e edits ih =>
    rw [List.foldl_cons, ih _ fun e' he' => h e' (List.mem_cons_of_mem e he'),
      replacedAt_insertion patches (h e List.mem_cons_self)]

theorem replacedAt_replace {patches : Array Patch} {j : Nat} (hj : j < patches.size) (text : String)
    (i : Nat) : replacedAt (patched patches (.replace j text)) i = true ↔
      i = j ∨ replacedAt patches i = true := by
  rw [replacedAt, patched, Array.getElem?_modify, replacedAt]
  split
  · rename_i hij
    obtain rfl : j = i := hij
    simp [Array.getElem?_eq_getElem hj, Patch.add]
  · rename_i hij
    simp [show i ≠ j from fun h => hij h.symm]

/-- Insertions at tokens that exist are no reason to refuse a changeset. -/
theorem refusal?_insertions {d : Draft} {c : Changeset} (hne : c.edits ≠ [])
    (h : ∀ e ∈ c.edits, e.isInsertion = true ∧ e.token < d.patches.size) :
    d.refusal? c = none := by
  have hfrom : ∀ (edits : List Edit), (∀ e ∈ edits, e.isInsertion = true ∧
      e.token < d.patches.size) → ∀ replaced, d.refusalFrom edits replaced = none := by
    intro edits
    induction edits with
    | nil => exact fun _ _ => rfl
    | cons e edits ih =>
      intro hedits replaced
      obtain ⟨hinsertion, hlt⟩ := hedits e List.mem_cons_self
      have hrest := ih fun e' he' => hedits e' (List.mem_cons_of_mem e he')
      rw [refusalFrom, Array.getElem?_eq_getElem hlt]
      cases e with
      | insertBefore => exact hrest replaced
      | insertAfter => exact hrest replaced
      | replace => cases hinsertion
  unfold refusal?
  split
  · exact absurd ‹_› hne
  · exact hfrom c.edits h []

/-- The replacement of a token is refused if the token is already replaced. -/
theorem refusal?_replace {d : Draft} {i : Nat} (hi : i < d.patches.size) (text : String) :
    d.refusal? ⟨[.replace i text]⟩ = if replacedAt d.patches i then some (.conflict i) else none := by
  simp [refusal?, refusalFrom, Edit.token, replacedAt, Array.getElem?_eq_getElem hi]

/-! ## All findings -/

/-- What a draft has to do with the findings taken so far.  The replaced tokens are the receivers.
Every changeset is counted, and those of receivers that came before are refused. -/
structure Ledger (size : Nat) (fs : List Finding) (d : Draft) : Prop where
  size : d.patches.size = size
  replaced : ∀ i, replacedAt d.patches i = true ↔ i ∈ receivers (fs.map Finding.diagnostic)
  taken : d.applied + d.rejected = (fs.filterMap Finding.fix).length
  refused : d.rejected + (receivers (fs.map Finding.diagnostic)).toFinset.card =
    (receivers (fs.map Finding.diagnostic)).length

theorem ledger_ofStream (s : Stream) : Ledger s.size [] (ofStream s) := by
  refine ⟨by simp [ofStream], fun i => ?_, rfl, rfl⟩
  by_cases hi : i < s.size
  · simp [replacedAt, ofStream, hi, Patch.none, receivers]
  · simp [replacedAt, ofStream, hi, receivers]

theorem receivers_snoc_of_ne (fs : List Finding) {f : Finding}
    (hf : f.diagnostic.concern ≠ .deprecatedEscape) :
    receivers ((fs ++ [f]).map Finding.diagnostic) = receivers (fs.map Finding.diagnostic) := by
  simp [receivers, Diagnostic.receiver?, hf]

theorem receivers_snoc (fs : List Finding) {f : Finding}
    (hf : f.diagnostic.concern = .deprecatedEscape) :
    receivers ((fs ++ [f]).map Finding.diagnostic) =
      receivers (fs.map Finding.diagnostic) ++ [f.diagnostic.token] := by
  simp [receivers, Diagnostic.receiver?, hf]

namespace Ledger

variable {size : Nat} {fs : List Finding} {d : Draft} {f : Finding}

/-- A finding that asks for nothing leaves the draft. -/
theorem nothing (h : Ledger size fs d) (hconcern : f.diagnostic.concern ≠ .deprecatedEscape)
    (hfix : f.fix = none) : Ledger size (fs ++ [f]) d := by
  refine ⟨h.size, ?_, ?_, ?_⟩
  · rw [receivers_snoc_of_ne fs hconcern]
    exact h.replaced
  · rw [List.filterMap_append, List.filterMap_cons, hfix, List.filterMap_nil, List.append_nil]
    exact h.taken
  · rw [receivers_snoc_of_ne fs hconcern]
    exact h.refused

theorem length_snoc {c : Changeset} (fs : List Finding) (hfix : f.fix = some c) :
    ((fs ++ [f]).filterMap Finding.fix).length = (fs.filterMap Finding.fix).length + 1 := by
  simp [hfix]

/-- Insertions are accepted and replace nothing. -/
theorem inserts {c : Changeset} (h : Ledger size fs d)
    (hconcern : f.diagnostic.concern ≠ .deprecatedEscape) (hfix : f.fix = some c)
    (hne : c.edits ≠ []) (hedits : ∀ e ∈ c.edits, e.isInsertion = true ∧ e.token < size) :
    Ledger size (fs ++ [f]) (d.submit c) := by
  have htaken := h.taken
  rw [Draft.submit, refusal?_insertions hne (by rwa [h.size])]
  refine ⟨?_, fun i => ?_, ?_, ?_⟩
  · exact (size_foldl_patched c.edits d.patches).trans h.size
  · rw [receivers_snoc_of_ne fs hconcern, ← h.replaced i,
      replacedAt_insertions d.patches (fun e he => (hedits e he).1) i]
  · rw [length_snoc fs hfix]
    dsimp only
    omega
  · rw [receivers_snoc_of_ne fs hconcern]
    exact h.refused

/-- The replacement of a receiver is refused if the receiver came before, and accepted if not. -/
theorem replaces {text : String} (h : Ledger size fs d)
    (hconcern : f.diagnostic.concern = .deprecatedEscape)
    (hfix : f.fix = some ⟨[.replace f.diagnostic.token text]⟩) (hlt : f.diagnostic.token < size) :
    Ledger size (fs ++ [f]) (d.submit ⟨[.replace f.diagnostic.token text]⟩) := by
  have hlt' : f.diagnostic.token < d.patches.size := by rwa [h.size]
  have hlength := length_snoc fs hfix
  have hreceivers := receivers_snoc fs hconcern
  have hreplaced := h.replaced
  have htaken := h.taken
  have hrefused := h.refused
  generalize receivers (fs.map Finding.diagnostic) = rs at hreceivers hreplaced hrefused
  generalize f.diagnostic.token = i at hlt' hreceivers ⊢
  have hinsert : (rs ++ [i]).toFinset = insert i rs.toFinset := by
    ext j
    simp
  rw [Draft.submit, refusal?_replace hlt' text]
  by_cases hmem : i ∈ rs
  · rw [if_pos ((hreplaced i).mpr hmem)]
    refine ⟨h.size, fun j => ?_, ?_, ?_⟩
    · rw [hreceivers, List.mem_append, List.mem_singleton, hreplaced j]
      exact ⟨.inl, fun hj => hj.elim id fun hj => hj ▸ hmem⟩
    · rw [hlength]
      dsimp only
      omega
    · rw [hreceivers, hinsert, Finset.insert_eq_of_mem (List.mem_toFinset.mpr hmem),
        List.length_append, List.length_singleton]
      dsimp only
      omega
  · rw [if_neg (mt (hreplaced i).mp hmem)]
    refine ⟨?_, fun j => ?_, ?_, ?_⟩
    · exact (size_foldl_patched _ d.patches).trans h.size
    · rw [hreceivers, List.mem_append, List.mem_singleton, ← hreplaced j, or_comm]
      exact replacedAt_replace hlt' text j
    · rw [hlength]
      dsimp only
      omega
    · rw [hreceivers, hinsert, Finset.card_insert_of_notMem (mt List.mem_toFinset.mp hmem),
        List.length_append, List.length_singleton]
      dsimp only
      omega

/-- One finding keeps the ledger. -/
theorem submit (h : Ledger size fs d) (hf : f.Accountable size) :
    Ledger size (fs ++ [f]) (d.submitAll f.fix.toList) := by
  cases hf with
  | nothing hconcern hfix =>
    rw [hfix]
    exact h.nothing hconcern hfix
  | inserts hconcern hfix hne hedits =>
    rw [hfix]
    exact h.inserts hconcern hfix hne hedits
  | replaces hconcern hfix hlt =>
    rw [hfix]
    exact h.replaces hconcern hfix hlt

end Ledger

theorem Ledger.submitAll {size : Nat} {fs : List Finding} {d : Draft} (h : Ledger size fs d)
    {gs : List Finding} (hgs : ∀ g ∈ gs, g.Accountable size) :
    Ledger size (fs ++ gs) (d.submitAll (gs.filterMap Finding.fix)) := by
  induction gs generalizing fs d with
  | nil => rwa [List.append_nil]
  | cons g gs ih =>
    have hstep := ih (h.submit (hgs g List.mem_cons_self)) fun g' hg' =>
      hgs g' (List.mem_cons_of_mem g hg')
    have hsplit : (g :: gs).filterMap Finding.fix = g.fix.toList ++ gs.filterMap Finding.fix := by
      rw [List.filterMap_cons]
      cases g.fix <;> rfl
    rw [hsplit, Draft.submitAll, List.foldl_append]
    rwa [List.append_assoc] at hstep

/-- The draft behind findings of an audit, from its beginning on. -/
theorem ledger_submitAll {s : Stream} {fs : List Finding} (h : ∀ f ∈ fs, f.Accountable s.size) :
    Ledger s.size fs ((ofStream s).submitAll (fs.filterMap Finding.fix)) :=
  (ledger_ofStream s).submitAll h

/-- Every call on the block that is reported has a changeset. -/
theorem length_receivers_le {size : Nat} {fs : List Finding} (h : ∀ f ∈ fs, f.Accountable size) :
    (receivers (fs.map Finding.diagnostic)).length ≤ (fs.filterMap Finding.fix).length := by
  induction fs with
  | nil => exact Nat.le_refl _
  | cons f fs ih =>
    have hle := ih fun g hg => h g (List.mem_cons_of_mem f hg)
    unfold receivers at hle ⊢
    cases h f List.mem_cons_self with
    | nothing hconcern hfix => simpa [Diagnostic.receiver?, hconcern, hfix] using hle
    | inserts hconcern hfix => simpa [Diagnostic.receiver?, hconcern, hfix] using Nat.le_succ_of_le hle
    | replaces hconcern hfix => simpa [Diagnostic.receiver?, hconcern, hfix] using hle

/-- Of changesets one at least is accepted. -/
theorem Ledger.applied_ne_zero_iff {size : Nat} {fs : List Finding} {d : Draft} (h : Ledger size fs d)
    (hfs : ∀ f ∈ fs, f.Accountable size) : d.applied ≠ 0 ↔ fs.filterMap Finding.fix ≠ [] := by
  have htaken := h.taken
  have hrefused := h.refused
  have hle := length_receivers_le hfs
  rw [← List.length_pos_iff]
  constructor
  · omega
  · intro hpos
    cases hreceivers : receivers (fs.map Finding.diagnostic) with
    | nil =>
      rw [hreceivers] at hrefused
      simp only [List.toFinset_nil, Finset.card_empty, List.length_nil] at hrefused
      omega
    | cons i is =>
      -- The first receiver is one that did not come before.
      have hcard : 0 < (receivers (fs.map Finding.diagnostic)).toFinset.card :=
        Finset.card_pos.mpr ⟨i, by simp [hreceivers]⟩
      omega

end Draft

/-- The rules do not look at whether fixes are asked for. -/
theorem Stream.audit_applyFixes (s : Stream) (rules : RuleSet) (a : AnalysisSettings)
    (fixing : Bool) : s.audit rules { a with applyFixes := fixing } = s.audit rules a := rfl

/-- What becomes of the changesets of a template.  The diagnostics do not depend on whether fixes are
asked for.  If they are, every changeset is accepted or refused.  One about output or the header is
never refused, and a call on the block is refused if its receiver came before.  So the refused ones
are as many as the calls beyond the distinct receivers, and there is a fixed text exactly if there is
a changeset. -/
theorem changesets_accounted (settings : Settings) {source : String} {s : Stream}
    (h : tokenize source = .ok s) :
    let audit := s.audit settings.rules settings.analysis
    (∀ fixing, ∃ checked, checkSource
        { settings with analysis := { settings.analysis with applyFixes := fixing } } source =
          .ok checked ∧
      checked.diagnostics = audit.diagnostics ∧
      (fixing = true → checked.applied + checked.rejected = audit.changesets.length ∧
        checked.rejected + (receivers checked.diagnostics).toFinset.card =
          checked.count .deprecatedEscape ∧
        (checked.fixed.isSome = true ↔ audit.changesets ≠ []))) ∧
    ∀ before f after c, audit.findings = before ++ f :: after → f.fix = some c →
      f.isOutput = true ∨ f.diagnostic.concern = .missingDeclaration →
      ((Draft.ofStream s).submitAll (before.filterMap Finding.fix)).refusal? c = none := by
  intro audit
  have haccount : ∀ f ∈ audit.findings, f.Accountable s.size :=
    fun f => Stream.accountable_of_mem_findings
  refine ⟨fun fixing => ⟨_, checkSource_eq_analyze _ h, ?_, fun hfixing => ?_⟩, ?_⟩
  · exact congrArg Audit.diagnostics (s.audit_applyFixes settings.rules settings.analysis fixing)
  · obtain ⟨happlied, hrejected, hfixed⟩ :=
      audit.draft?_counts s { settings.analysis with applyFixes := fixing } hfixing
    have hledger := Draft.ledger_submitAll haccount
    refine ⟨?_, ?_, ?_⟩
    · exact (congrArg₂ (· + ·) happlied hrejected).trans hledger.taken
    · refine (congrArg (· + _) hrejected).trans ?_
      exact hledger.refused.trans (length_receivers audit.diagnostics)
    · exact hfixed.trans (hledger.applied_ne_zero_iff haccount)
  · intro before f after c hsplit hfix hconcern
    have hbefore : ∀ g ∈ before, g.Accountable s.size :=
      fun g hg => haccount g (by simp [hsplit, hg])
    have hledger := Draft.ledger_submitAll hbefore
    have hf := haccount f (by simp [hsplit])
    cases hf with
    | nothing _ hnone => rw [hfix] at hnone; cases hnone
    | inserts _ hfix' hne hedits =>
      rw [hfix] at hfix'
      cases hfix'
      exact Draft.refusal?_insertions hne (by rwa [hledger.size])
    | replaces hdeprecated _ _ =>
      rw [Finding.isOutput, hdeprecated] at hconcern
      rcases hconcern with hconcern | hconcern <;> cases hconcern

/-- Two calls have one receiver, so one of the two changesets is refused. -/
theorem changesets_accounted_shared_receiver :
    let source := "<?= $block->escapeUrl(1)->escapeJs() ?>"
    let s := (Lexed.ofSource source).stream
    let settings := Settings.default fun _ => none
    tokenize source = .ok s ∧
    ∃ checked, checkSource
        { settings with analysis := { settings.analysis with applyFixes := true } } source =
          .ok checked ∧
      receivers checked.diagnostics = [2, 2] ∧ checked.count .deprecatedEscape = 2 ∧
      checked.applied = 1 ∧ checked.rejected = 1 ∧ checked.fixed.isSome = true := by
  intro source s settings
  have hs : tokenize source = .ok s := tokenize_of_fault_eq_none (by decide +kernel)
  have hreceivers : receivers (s.audit settings.rules settings.analysis).diagnostics = [2, 2] := by
    decide +kernel
  have hsets : (s.audit settings.rules settings.analysis).changesets.length = 2 := by
    decide +kernel
  obtain ⟨checked, hchecked, hdiagnostics, hfixing⟩ := (changesets_accounted settings hs).1 true
  obtain ⟨htaken, hrefused, hfixed⟩ := hfixing rfl
  rw [← hdiagnostics] at hreceivers
  have hcount : checked.count .deprecatedEscape = 2 := by
    rw [Checked.count, ← length_receivers, hreceivers]
    rfl
  have hdistinct : [2, 2].toFinset.card = 1 := by decide
  rw [hreceivers, hcount, hdistinct] at hrefused
  rw [hsets] at htaken
  refine ⟨hs, checked, hchecked, hreceivers, hcount, by omega, by omega, hfixed.mpr fun hnil => ?_⟩
  rw [hnil] at hsets
  cases hsets

end EscapeAudit
