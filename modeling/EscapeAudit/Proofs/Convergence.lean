import EscapeAudit.Proofs.FixedTemplate

/-!
# Wrapping converges

With the rule for output alone and no marks, the fixed template has the statements of the template,
each of them split into the same tree (`converges_statement`).  Every leaf that needed escaping is
escaped, every other leaf keeps its verdict, and a second run has nothing to report
(`wrapping_converges`).
-/

namespace EscapeAudit

open Lexer

namespace Stream

/-! ## The fixes of a run -/

theorem fixes_output (s : Stream) (fixing : Bool) :
    s.fixes ⟨true, false, fixing⟩ = s.allOutputFixes := by
  have hfrom : ∀ (es : List Nat) (checked : Bool),
      s.fixesFrom ⟨true, false, fixing⟩ checked es = es.flatMap s.outputFixes := by
    intro es
    induction es with
    | nil => intro checked; rfl
    | cons e es ih =>
      intro checked
      rw [fixesFrom, ih]
      rfl
  exact hfrom s.entryPoints false

/-- A mark is there because a statement asks for it. -/
theorem isWrap_of_mem_allOutputFixes {s : Stream}
    (hmarks : ∀ e ∈ s.entryPoints, ¬ s.AsksForMark e) {f : Fix} (hf : f ∈ s.allOutputFixes) :
    f.isWrap = true := by
  obtain ⟨e, he, hf⟩ := List.mem_flatMap.mp hf
  obtain ⟨l, hl, anchor, hjudge, hfix⟩ := mem_outputFixes hf
  unfold Decision.fix? at hfix
  split at hfix
  · cases hfix
  · rename_i hremedy
    exact absurd ⟨not_exempt_of_mem_outputFixes hf, l, hl, anchor, hjudge, hremedy⟩ (hmarks e he)
  · obtain rfl := Option.some.inj hfix
    rfl

/-- A leaf that needed escaping is escaped, and any other keeps its verdict. -/
def Resolves (s s' : Stream) (l l' : Leaf) : Prop :=
  (∀ anchor, s.judge .standard l = .unescaped anchor →
    s'.judge .standard l' = .safe .alreadyEscaped) ∧
  ((∀ anchor, s.judge .standard l ≠ .unescaped anchor) →
    s'.judge .standard l' = s.judge .standard l)

/-- What becomes of a statement.  It is split into the same tree as before.  The leaves of a
statement that is not exempt are resolved.  A statement that is exempt stays so, and its leaves
stay as they are. -/
structure Converges (s s' : Stream) (e e' : Nat) : Prop where
  kind : s'.kind? e' = s.kind? e
  resolved : ¬ s.Exempt e →
    SameTree s s' (Resolves s s') (s.statementRange e) (s'.statementRange e')
  exempt : s.Exempt e → s'.Exempt e' ∧
    SameTree s s' (fun l l' => (s.judge .standard l).Agrees (s'.judge .standard l'))
      (s.statementRange e) (s'.statementRange e')

theorem converges_statement {ls : List Lexeme} {chunk : Nat → Lexeme → List Lexeme}
    (hapart : (ofLexemes ls).EntriesApart) (hfollows : Follows ls chunk) {e e' : Nat}
    (hmatched : (ofLexemes ls).Matched ((ofLexemes ls).statementRange e))
    (hcut : ((ofLexemes ls).statementWalk e).cutShort = false)
    (hagree : ∀ i, e < i → chunk i = fusedChunk (ofLexemes ls).allOutputFixes i)
    (hmoves : Follows.Moves ls chunk e e') (hmark : ¬ (ofLexemes ls).AsksForMark e) :
    Converges (ofLexemes ls) (ofLexemes (weave chunk 0 ls)) e e' := by
  obtain ⟨before, l, content, after, pre, hst, rfl, hpre, hloose, rfl⟩ := hmoves.isStatement
  have he := hst.mem_entryPoints
  have hst' := hfollows.isStatement hst hpre
  have htree := sameTree_statement hapart hfollows hmatched hagree hmoves fun i hlt hend hf =>
    hmark (hapart.asksForMark he hlt hend hf)
  have hleaf : ∀ l, (ofLexemes ls).Under ((ofLexemes ls).statementRange before.length) l →
      l ∈ ((ofLexemes ls).statementWalk before.length).leaves := by
    intro l hl
    rw [statementWalk_eq] at hcut ⊢
    exact mem_leaves_of_under hcut (List.mem_singleton_self _) hl
  refine ⟨?_, fun hexempt => htree.mono fun l l' hl hsettles => ⟨fun anchor hjudge => ?_,
    fun hother => ?_⟩, fun hexempt => ⟨hfollows.exempt hst.eq hpre hloose hexempt,
      htree.mono fun l l' hl hsettles => hsettles.2 fun f hf =>
        (hapart.judge_of_wraps he (hleaf l hl) hf).1 hexempt⟩⟩
  · rw [hst.kind?, hst'.kind?]
  · obtain ⟨f, hf⟩ := exists_wraps he hexempt hmark (hleaf l hl) hjudge
    exact hsettles.1 f hf
  · have hagrees := hsettles.2 fun f hf => by
      obtain ⟨_, anchor, hjudge⟩ := hapart.judge_of_wraps he (hleaf l hl) hf
      exact hother anchor hjudge
    cases hjudge : (ofLexemes ls).judge .standard l with
    | unescaped anchor => exact absurd hjudge (hother anchor)
    | safe reason =>
      rw [hjudge] at hagrees
      exact hagrees.symm
    | skipped =>
      rw [hjudge] at hagrees
      exact hagrees.symm

end Stream

/-! ## Checking a template -/

/-- A template with a stream is checked by running the rules over it. -/
theorem checkSource_eq_analyze (settings : Settings) {source : String} {s : Stream}
    (h : tokenize source = .ok s) :
    checkSource settings source =
      .ok (analyze settings memoryPath s (Lexed.ofSource source).metrics).value := by
  have hresult : (Lexed.ofSource source).result = .ok s := h
  simp [checkSource, tellCheckSource, within, examine, hresult]

theorem checkSource_of_tokenize (settings : Settings) {source : String} {s : Stream}
    (h : tokenize source = .ok s) :
    ∃ c, checkSource settings source = .ok c ∧
      c.diagnostics = (s.audit settings.rules settings.analysis).diagnostics ∧
      c.fixed = ((s.audit settings.rules settings.analysis).draft? s settings.analysis).bind
        Draft.fixed? :=
  ⟨_, checkSource_eq_analyze settings h, rfl, rfl⟩

/-- With fixes asked for, a check counts what the draft with all changesets counts. -/
theorem Audit.draft?_counts (a : Audit) (s : Stream) (settings : AnalysisSettings)
    (h : settings.applyFixes = true) :
    let d := (Draft.ofStream s).submitAll a.changesets
    ((a.draft? s settings).map Draft.applied).getD 0 = d.applied ∧
      ((a.draft? s settings).map Draft.rejected).getD 0 = d.rejected ∧
      (((a.draft? s settings).bind Draft.fixed?).isSome = true ↔ d.applied ≠ 0) := by
  rw [Audit.draft?, h]
  cases hsets : a.changesets with
  | nil => exact ⟨rfl, rfl, by simp [Draft.submitAll, Draft.ofStream]⟩
  | cons c cs => exact ⟨rfl, rfl, by simp [Draft.fixed?, Draft.changed]⟩

theorem fixed_of_checkSource {settings : Settings} {source : String} {s : Stream} {c : Checked}
    (h : tokenize source = .ok s) (hc : checkSource settings source = .ok c) :
    c.fixed = ((s.audit settings.rules settings.analysis).draft? s settings.analysis).bind
      Draft.fixed? := by
  obtain ⟨c', hc', _, hfixed⟩ := checkSource_of_tokenize settings h
  obtain rfl := Except.ok.inj (hc.symm.trans hc')
  exact hfixed

theorem eq_text_of_fixed {settings : Settings} {source text : String} {s : Stream} {c : Checked}
    (h : tokenize source = .ok s) (hc : checkSource settings source = .ok c)
    (hfixed : c.fixed = some text) :
    text = ((Draft.ofStream s).submitAll
      (s.audit settings.rules settings.analysis).changesets).text := by
  have hdraft := fixed_of_checkSource h hc
  rw [hfixed, Audit.draft?] at hdraft
  split at hdraft
  · simp only [Option.bind_some, Draft.fixed?] at hdraft
    split at hdraft
    · exact Option.some.inj hdraft
    · cases hdraft
  · cases hdraft

/-- The fixed template where only the rule for output is switched on. -/
theorem toList_text_of_fixed {settings : Settings} (hrules : settings.rules = .standard)
    (hanalysis : settings.analysis = ⟨true, false, true⟩) {source text : String} {ls : List Lexeme}
    {c : Checked} (h : tokenize source = .ok (.ofLexemes ls))
    (hc : checkSource settings source = .ok c) (hfixed : c.fixed = some text)
    (hsound : ∀ f ∈ (Stream.ofLexemes ls).allOutputFixes, f.Sound ls) :
    text.toList = chars (weave (chunkOf (Stream.ofLexemes ls).allOutputFixes) 0 ls) := by
  have hdraft := eq_text_of_fixed h hc hfixed
  rw [hrules, hanalysis, Stream.changesets_audit, Stream.fixes_output] at hdraft
  have hshows := (shows_ofStream ls).submitAll fun f hf => (hsound f hf).inRange
  rw [hdraft, hshows.toList_text_eq_chars fun hdeclare => by
    cases Stream.isInsertion_of_mem_allOutputFixes hdeclare]
  rfl

/-- A template is fixed if the rule for output asks for anything, and no other rule is switched on. -/
theorem exists_fixed {settings : Settings} (hrules : settings.rules = .standard)
    (hanalysis : settings.analysis = ⟨true, false, true⟩) {source : String} {ls : List Lexeme}
    {c : Checked} (h : tokenize source = .ok (.ofLexemes ls))
    (hc : checkSource settings source = .ok c)
    (hsound : ∀ f ∈ (Stream.ofLexemes ls).allOutputFixes, f.Sound ls)
    (hsome : (Stream.ofLexemes ls).allOutputFixes ≠ []) : ∃ text, c.fixed = some text := by
  have hdraft := fixed_of_checkSource h hc
  rw [hrules, hanalysis] at hdraft
  obtain ⟨_, _, hcount⟩ := ((Stream.ofLexemes ls).audit .standard ⟨true, false, true⟩).draft?_counts
    (.ofLexemes ls) ⟨true, false, true⟩ rfl
  obtain ⟨happlied, _⟩ := (shows_ofStream ls).applied_submitAll
    (fun f hf => (hsound f hf).inRange) fun place hswap => by
      cases Stream.isInsertion_of_mem_allOutputFixes hswap
  rw [Stream.changesets_audit, Stream.fixes_output, happlied] at hcount
  rw [← Option.isSome_iff_exists, hdraft, hcount]
  have hpos := List.length_pos_iff.mpr hsome
  omega

/-- A text is read in one way. -/
theorem eq_ofLexemes_of_reads {text : String} {ms : List Lexeme} {u : State}
    (hreads : Reads .initial text.toList ms u []) {s : Stream} (h : tokenize text = .ok s) :
    s = .ofLexemes ms := by
  rcases tokenize_of_reads hreads with ⟨_, hok⟩ | ⟨_, _, herror⟩
  · rw [h] at hok
    exact Except.ok.inj hok
  · rw [h] at herror
    cases herror

/-- A template in which nothing is reported is not fixed. -/
theorem checkSource_of_findings_eq_nil (settings : Settings) {source : String} {s : Stream}
    (h : tokenize source = .ok s)
    (hnone : (s.audit settings.rules settings.analysis).findings = []) :
    ∃ c, checkSource settings source = .ok c ∧ c.diagnostics = [] ∧ c.fixed = none := by
  obtain ⟨c, hc, hdiagnostics, hfixed⟩ := checkSource_of_tokenize settings h
  refine ⟨c, hc, ?_, ?_⟩
  · rw [hdiagnostics, Audit.diagnostics, hnone]
    rfl
  · rw [hfixed, Audit.draft?, Audit.changesets, hnone]
    simp

/-- Wrapping converges.  The statements of the fixed template are those of the template, each split
into the same tree.  Every leaf that needed escaping is escaped, every other leaf keeps its verdict,
and a second run has nothing to report. -/
theorem wrapping_converges {settings : Settings} (hrules : settings.rules = .standard)
    (hanalysis : settings.analysis = ⟨true, false, true⟩) {source : String} {s : Stream}
    (h : tokenize source = .ok s) (hapart : s.EntriesApart)
    (hmatched : ∀ e ∈ s.entryPoints, s.Matched (s.statementRange e))
    (hmarks : ∀ e ∈ s.entryPoints, ¬ s.AsksForMark e)
    (hcut : ∀ e ∈ s.entryPoints, (s.statementWalk e).cutShort = false)
    {c : Checked} (hc : checkSource settings source = .ok c) {text : String}
    (hfixed : c.fixed = some text) {s' : Stream} (h' : tokenize text = .ok s') :
    List.Forall₂ (Stream.Converges s s') s.entryPoints s'.entryPoints ∧
      ∃ c', checkSource settings text = .ok c' ∧ c'.diagnostics = [] ∧ c'.fixed = none := by
  obtain ⟨ls, t, hreads, _, rfl⟩ := (tokenize_eq_ok_iff source s).mp h
  have hsound : ∀ f ∈ (Stream.ofLexemes ls).allOutputFixes, f.Sound ls := by
    intro f hf
    have hwrap := Stream.isWrap_of_mem_allOutputFixes hmarks hf
    rw [← Stream.fixes_output _ true] at hf
    exact sound_of_mem_fixes hreads hf hwrap
  have htext := toList_text_of_fixed hrules hanalysis h hc hfixed hsound
  obtain ⟨u, hreads'⟩ := Stream.reads_fusedChunk hreads hapart hmatched hsound
  rw [← htext] at hreads'
  obtain rfl := eq_ofLexemes_of_reads hreads' h'
  have hfollows := Stream.follows_fusedChunk hapart
  have hentries := hfollows.forall₂_entryPoints
  refine ⟨hentries.imp fun e e' hmoves => ?_, ?_⟩
  · obtain ⟨_, _, _, _, _, hst, rfl, _⟩ := hmoves.isStatement
    have he := hst.mem_entryPoints
    exact Stream.converges_statement hapart hfollows (hmatched _ he) (hcut _ he)
      (fun _ _ => rfl) hmoves (hmarks _ he)
  · refine checkSource_of_findings_eq_nil settings h' (List.eq_nil_iff_forall_not_mem.mpr ?_)
    intro f hf
    rw [hrules, hanalysis] at hf
    obtain ⟨e', he', ⟨_, hf⟩ | ⟨hlegacy, _⟩⟩ := Stream.mem_findings_audit hf
    · obtain ⟨e, he, hmoves⟩ := hentries.exists_of_mem_right he'
      rw [Stream.outputFindings_fixed hapart hfollows he (hmatched e he) (fun _ _ => rfl) hmoves
        (hmarks e he)] at hf
      cases hf
    · cases hlegacy

/-- Two branches of a ternary, one of them with a concatenation and a name that becomes a cast. -/
theorem wrapping_converges_ternary :
    ∃ s s' : Stream, tokenize "<?= $q ? $a . int : ($b) ?>" = .ok s ∧
      tokenize ("<?= $q ? $escaper->escapeHtml($a) . $escaper->escapeHtml(int) " ++
        ": ($escaper->escapeHtml($b)) ?>") = .ok s' ∧
      List.Forall₂ (Stream.Converges s s') s.entryPoints s'.entryPoints := by
  have hold : tokenize "<?= $q ? $a . int : ($b) ?>" =
      .ok (Lexed.ofSource "<?= $q ? $a . int : ($b) ?>").stream :=
    tokenize_of_fault_eq_none (by decide +kernel)
  have hnew : tokenize ("<?= $q ? $escaper->escapeHtml($a) . $escaper->escapeHtml(int) " ++
        ": ($escaper->escapeHtml($b)) ?>") =
      .ok (Lexed.ofSource ("<?= $q ? $escaper->escapeHtml($a) . $escaper->escapeHtml(int) " ++
        ": ($escaper->escapeHtml($b)) ?>")).stream :=
    tokenize_of_fault_eq_none (by decide +kernel)
  obtain ⟨c, hc, _, hfixed⟩ := checkSource_of_tokenize
    { Settings.default (fun _ => none) with analysis := ⟨true, false, true⟩ } hold
  refine ⟨_, _, hold, hnew, (wrapping_converges rfl rfl hold ?_ ?_ ?_ ?_ hc ?_ hnew).1⟩
  · decide +kernel
  · decide +kernel
  · decide +kernel
  · decide +kernel
  · refine hfixed.trans ?_
    decide +kernel

end EscapeAudit
