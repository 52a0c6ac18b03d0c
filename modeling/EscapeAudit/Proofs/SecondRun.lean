import EscapeAudit.Proofs.Migration

/-!
# A second run

With both rules switched on, the fixed template is made of chunks of the template with the swaps made
(`reads_fixes`).  Where nothing is in the way of the fixes, a second run has nothing to report
(`fixing_settles`).

* A statement that asks for a mark is exempt (`Settles.exempt`), and in any other statement the leaves
  that needed escaping are escaped.
* No call is made on the block (`Settles.blockReceiver?_eq_none`).
* The header has the declaration, or no statement has a call (`Settles.header`,
  `Settles.escapeCalls_eq_nil`).
-/

namespace EscapeAudit

open Lexer

namespace Stream

/-! ## The tokens of a fixed template -/

/-- The chunks of a template to which all fixes but the swaps are made.  From the first statement on
they are those of the fixes for output.  The header lacks the declaration only if nothing asked for
it. -/
structure Settles (ls : List Lexeme) (chunk : Nat → Lexeme → List Lexeme) : Prop where
  follows : Follows ls chunk
  agree : ∀ e ∈ (ofLexemes ls).entryPoints, ∀ i, e ≤ i →
    chunk i = fusedChunk (ofLexemes ls).allOutputFixes i
  header : (ofLexemes (weave chunk 0 ls)).lacksDeclaration = true →
    (ofLexemes ls).lacksDeclaration = true ∧ (ofLexemes ls).callsEscaper = false

/-- A template with the swaps made.  What is left to make are the fixes for output that it asks for
itself, and the declaration. -/
structure Swapped (ls base : List Lexeme) (fixes : List Fix) : Prop where
  base_eq : base = swapFrom fixes 0 ls
  swap : List.Forall₂ Swap ls base
  apart : (ofLexemes base).EntriesApart
  enclosing : ∀ f ∈ (ofLexemes base).allOutputFixes, f.Enclosing base
  unfused : Unfused base
  insertions : (ofLexemes base).allOutputFixes = fixes.filter Fix.isInsertion

theorem swapped_of_reads {cs : List Char} {ls : List Lexeme} {t : State}
    (hreads : Reads .initial cs ls t []) (hapart : (ofLexemes ls).EntriesApart)
    (hmatched : ∀ e ∈ (ofLexemes ls).entryPoints,
      (ofLexemes ls).Matched ((ofLexemes ls).statementRange e)) {fixes : List Fix} {fixing : Bool}
    (hfixes : fixes = (ofLexemes ls).fixes ⟨true, true, fixing⟩)
    (hsound : ∀ f ∈ fixes, f.Sound ls) : Swapped ls (swapFrom fixes 0 ls) fixes := by
  have hswap : List.Forall₂ Swap ls (swapFrom fixes 0 ls) :=
    forall₂_swapFrom fun j hj => by
      rw [Nat.zero_add] at hj
      exact hsound _ hj
  have halike := alike_of_swap hswap
  refine ⟨rfl, hswap, halike.entriesApart.mpr hapart, enclosing_allOutputFixes ?_,
    unfused_swap hswap (hreads.unfused trivial), ?_⟩
  · rw [halike.entryPoints, halike.statementRange, halike.matched]
    exact hmatched
  · rw [halike.allOutputFixes, hfixes, filter_isInsertion_fixes, if_pos rfl]

theorem Swapped.layered {ls base : List Lexeme} {fixes : List Fix} (h : Swapped ls base fixes)
    (hsound : ∀ f ∈ fixes, f.Sound ls) : Layered ls fixes := by
  refine ⟨hsound, ?_, ?_⟩
  · rw [← h.insertions]
    exact tidy_allOutputFixes h.apart
  · rw [← h.insertions, ← h.base_eq]
    exact h.enclosing

/-- The fixed template has the tokens that settled chunks are made of. -/
theorem reads_fixes {cs : List Char} {ls base : List Lexeme} {t : State}
    (hreads : Reads .initial cs ls t []) {fixes : List Fix} {fixing : Bool}
    (hfixes : fixes = (ofLexemes ls).fixes ⟨true, true, fixing⟩)
    (hsound : ∀ f ∈ fixes, f.Sound ls) (h : Swapped ls base fixes) {d : Draft}
    (hshows : Shows d ls fixes) :
    ∃ chunk u, Settles base chunk ∧ Reads .initial d.text.toList (weave chunk 0 base) u [] := by
  obtain ⟨chunk, u, hdeclares, hreads'⟩ := (h.layered hsound).reads_fixes hreads hfixes hshows
  rw [← h.insertions, ← h.base_eq] at hdeclares
  rw [← h.base_eq] at hreads'
  exact ⟨chunk, u, ⟨hdeclares.follows (follows_fusedChunk h.apart),
    fun _ he _ hi => hdeclares.agree he hi, hdeclares.header (tidy_allOutputFixes h.apart)⟩, hreads'⟩

/-! ## Marks -/

theorem exists_mark_mem_leafFixes {s : Stream} {e : Nat} {leaves : List Leaf} {l : Leaf}
    (hl : l ∈ leaves) {anchor : Nat} (hjudge : s.judge .standard l = .unescaped anchor)
    (hremedy : (s.decide .standard e l.first l.last anchor).remedy = .mark) :
    ∃ place, .mark place ∈ s.leafFixes e true leaves := by
  induction leaves with
  | nil => cases hl
  | cons k leaves ih =>
    rw [leafFixes]
    rcases List.mem_cons.mp hl with rfl | hl
    · refine ⟨(s.decide .standard e l.first l.last anchor).markerAt, ?_⟩
      simp [hjudge, hremedy, Decision.fix?]
    · obtain ⟨place, hplace⟩ := ih hl
      split
      · rename_i anchor' _
        cases hmarks : (s.decide .standard e k.first k.last anchor').remedy == .mark with
        | true =>
          refine ⟨(s.decide .standard e k.first k.last anchor').markerAt, ?_⟩
          simp [Decision.fix?, beq_iff_eq.mp hmarks]
        | false =>
          refine ⟨place, List.mem_append.mpr (.inr ?_)⟩
          simpa only [hmarks, Bool.false_and, Bool.not_false, Bool.and_true] using hplace
      · exact ⟨place, hplace⟩

/-- A statement that asks for a mark gets one. -/
theorem AsksForMark.exists_marksAt {s : Stream} {e : Nat} (h : s.AsksForMark e) :
    ∃ place, s.MarksAt e place := by
  obtain ⟨hexempt, l, hl, anchor, hjudge, hremedy⟩ := h
  obtain ⟨place, hplace⟩ := exists_mark_mem_leafFixes hl hjudge hremedy
  refine ⟨place, marksAt_iff.mpr ?_⟩
  rcases s.exempt_or_outputFixes e with h | ⟨_, hfixes⟩
  · exact absurd h hexempt
  · rwa [hfixes]

/-- The comment that is looked for near a statement is a mark, this one or one before it. -/
def HeedsMark (s : Stream) (e place : Nat) : Prop :=
  s.kind? e = some .echo ∨ s.kind? e = some .openTagWithEcho ∧
    ∃ first ≤ place, s.MarksAt e first ∧ ∀ i < first, e < i → s.kind? i ≠ some .comment

instance (s : Stream) (e place : Nat) : Decidable (s.HeedsMark e place) :=
  inferInstanceAs (Decidable (_ ∨ _ ∧ ∃ first, first ≤ place ∧ s.MarksAt e first ∧
    ∀ i < first, e < i → s.kind? i ≠ some .comment))

/-- Every mark is heeded. -/
def HeedsMarks (s : Stream) : Prop :=
  ∀ e ∈ s.entryPoints, ∀ place < s.size, s.MarksAt e place → s.HeedsMark e place

instance (s : Stream) : Decidable s.HeedsMarks :=
  inferInstanceAs (Decidable (∀ e ∈ s.entryPoints, ∀ place, place < s.size →
    s.MarksAt e place → s.HeedsMark e place))

theorem Alike.marksAt {s s' : Stream} (h : Alike s s') {e place : Nat} :
    s'.MarksAt e place ↔ s.MarksAt e place := by
  rw [marksAt_iff, marksAt_iff, h.outputFixes]

theorem Alike.heedsMarks {s s' : Stream} (h : Alike s s') : s'.HeedsMarks ↔ s.HeedsMarks := by
  simp only [HeedsMarks, HeedsMark, h.entryPoints, h.size, h.kind, h.marksAt]

theorem fusedChunk_mark {fixes : List Fix} (htidy : Tidy fixes) {i : Nat}
    (hf : .mark i ∈ fixes) (l : Lexeme) : fusedChunk fixes i l = exemptionMark ++ [l] := by
  rw [fusedChunk, htidy.chunkOf_of_mem hf (Nat.le_refl i) (Nat.le_refl i)]
  simp [Fix.lexemesBefore, Fix.lexemesAfter, exemptionMark, fuseCall]

/-- A statement that asks for a mark is exempt in the fixed template. -/
theorem Settles.exempt {ls : List Lexeme} {chunk : Nat → Lexeme → List Lexeme}
    (h : Settles ls chunk) (hapart : (ofLexemes ls).EntriesApart)
    (hheeds : (ofLexemes ls).HeedsMarks) {e e' : Nat} (hmoves : Follows.Moves ls chunk e e')
    (hmark : (ofLexemes ls).AsksForMark e) : (ofLexemes (weave chunk 0 ls)).Exempt e' := by
  have htidy := tidy_allOutputFixes hapart
  obtain ⟨before, l, after, pre, hls, rfl, hentry, hpre, hloose, rfl⟩ := hmoves
  have he := mem_entryPoints_of_eq hls hentry
  have hkind : (ofLexemes ls).kind? before.length = some l.kind := by
    rw [kind?_ofLexemes, hls]
    simp
  have hexempt : ∀ place, (ofLexemes ls).MarksAt before.length place →
      (l.kind = .echo ∨ l.kind = .openTagWithEcho ∧
        ∀ i, before.length < i → i < place → (ofLexemes ls).kind? i ≠ some .comment) →
      (ofLexemes (weave chunk 0 ls)).Exempt (weave chunk 0 before ++ pre).length := by
    intro place hmarks hkinds
    have hle : before.length ≤ place := by
      rcases hmarks.cases with ⟨_, rfl⟩ | ⟨_, hlt, _⟩ <;> omega
    have hplace : ∀ k, chunk place k = exemptionMark ++ [k] := fun k => by
      rw [h.agree _ he _ hle]
      exact fusedChunk_mark htidy (List.mem_flatMap.mpr ⟨_, he, marksAt_iff.mp hmarks⟩) k
    refine exempt_of_mark hls hpre hloose (by simp) hmarks hkinds (fun heq => ?_) (fun k => ?_)
      fun i k hi m hm => ?_
    · rw [← heq, hplace] at hpre
      exact ⟨[], _, (List.append_inj_left' hpre rfl).symm⟩
    · exact ⟨[], _, hplace k, by simp⟩
    · rw [h.agree _ he _ (Nat.le_of_lt hi)] at hm
      exact eq_or_loose_of_mem_fusedChunk htidy hm
  obtain ⟨place, hmarks⟩ := hmark.exists_marksAt
  have hsize : place < (ofLexemes ls).size := by
    have hend := statementEnd_le_size (ofLexemes ls) before.length
    rcases hmarks.cases with ⟨_, rfl⟩ | ⟨_, _, hlt⟩
    · exact List.mem_range.mp (List.mem_filter.mp he).1
    · omega
  rcases hheeds _ he place hsize hmarks with hecho | ⟨htag, first, _, hfirst, hcomment⟩
  · exact hexempt place hmarks (.inl (Option.some.inj (hkind.symm.trans hecho)))
  · exact hexempt first hfirst (.inr ⟨Option.some.inj (hkind.symm.trans htag),
      fun i hlt hi => hcomment i hi hlt⟩)

/-! ## Calls -/

/-- The fixes for output bring no call on the block. -/
theorem Settles.blockReceiver?_eq_none {ls : List Lexeme} {chunk : Nat → Lexeme → List Lexeme}
    (h : Settles ls chunk) (hapart : (ofLexemes ls).EntriesApart) {e e' : Nat}
    (hmoves : Follows.Moves ls chunk e e')
    (hnone : ∀ call ∈ (ofLexemes ls).escapeCalls .standard e,
      (ofLexemes ls).blockReceiver? .standard e call = none) :
    ∀ call ∈ (ofLexemes (weave chunk 0 ls)).escapeCalls .standard e',
      (ofLexemes (weave chunk 0 ls)).blockReceiver? .standard e' call = none :=
  blockReceiver?_weave h.follows (h.agree e hmoves.mem_entryPoints) (tidy_allOutputFixes hapart)
    hmoves hnone

/-- Without a wrap, the fixes for output bring no call. -/
theorem Settles.escapeCalls_eq_nil {ls : List Lexeme} {chunk : Nat → Lexeme → List Lexeme}
    (h : Settles ls chunk) (hapart : (ofLexemes ls).EntriesApart)
    (hwraps : ∀ f ∈ (ofLexemes ls).allOutputFixes, f.isWrap = false) {e e' : Nat}
    (hmoves : Follows.Moves ls chunk e e') (hnone : (ofLexemes ls).escapeCalls .standard e = []) :
    (ofLexemes (weave chunk 0 ls)).escapeCalls .standard e' = [] :=
  escapeCalls_weave_eq_nil h.follows (h.agree e hmoves.mem_entryPoints) (tidy_allOutputFixes hapart)
    hwraps hmoves hnone

/-- If the header lacks the declaration and no call asks for it yet, no wrap brings a call. -/
def DeclaresInTime (s : Stream) : Prop :=
  s.lacksDeclaration = true → s.callsEscaper = false →
    ∀ e ∈ s.entryPoints, ∀ c ∈ s.outputChangesets .standard e, c.isWrap = false

instance (s : Stream) : Decidable s.DeclaresInTime :=
  inferInstanceAs (Decidable (_ = true → _ = false →
    ∀ e ∈ s.entryPoints, ∀ c ∈ s.outputChangesets .standard e, c.isWrap = false))

theorem DeclaresInTime.isWrap_eq_false {s : Stream} (h : s.DeclaresInTime)
    (hlacks : s.lacksDeclaration = true) (hcalls : s.callsEscaper = false) {f : Fix}
    (hf : f ∈ s.allOutputFixes) : f.isWrap = false := by
  obtain ⟨e, he, hf⟩ := List.mem_flatMap.mp hf
  have hwrap := h hlacks hcalls e he f.changeset
  rw [outputChangesets_standard, Fix.isWrap_changeset] at hwrap
  exact hwrap (List.mem_map_of_mem hf)

end Stream

/-- Fixing twice changes nothing.  A second run has nothing to report if no statement stands in
another one, the parentheses of each statement match, the comments that the fixes put in are read and
found, and a header that lacks the declaration gets it in the first run. -/
theorem fixing_settles {settings : Settings} (hrules : settings.rules = .standard)
    (hanalysis : settings.analysis = ⟨true, true, true⟩) {source : String} {s : Stream}
    (h : tokenize source = .ok s) (hapart : s.EntriesApart)
    (hmatched : ∀ e ∈ s.entryPoints, s.Matched (s.statementRange e)) (hslash : s.ClearOfSlashes)
    (hmarks : s.HeedsMarks) (hheader : s.DeclaresInTime) {c : Checked}
    (hc : checkSource settings source = .ok c) {text : String} (hfixed : c.fixed = some text)
    {s' : Stream} (h' : tokenize text = .ok s') :
    ∃ c', checkSource settings text = .ok c' ∧ c'.diagnostics = [] ∧ c'.fixed = none := by
  obtain ⟨ls, t, hreads, _, rfl⟩ := (tokenize_eq_ok_iff source s).mp h
  obtain ⟨fixes, hfixes⟩ : ∃ fixes, fixes = (Stream.ofLexemes ls).fixes ⟨true, true, true⟩ :=
    ⟨_, rfl⟩
  have hsound : ∀ f ∈ fixes, f.Sound ls := by
    rw [hfixes]
    exact Stream.sound_fixes hreads hslash
  have hshows := (shows_ofStream ls).submitAll fun f hf => (hsound f hf).inRange
  have hdraft := eq_text_of_fixed h hc hfixed
  rw [hrules, hanalysis, Stream.changesets_audit, ← hfixes] at hdraft
  have hswapped := Stream.swapped_of_reads hreads hapart hmatched hfixes hsound
  obtain ⟨chunk, u, hsettles, hreads'⟩ :=
    Stream.reads_fixes hreads hfixes hsound hswapped hshows
  rw [← hdraft] at hreads'
  obtain rfl := eq_ofLexemes_of_reads hreads' h'
  -- The template with the swaps made is alike, so what is known of the one is known of the other.
  have halike := Stream.alike_of_swap hswapped.swap
  have hapart' := hswapped.apart
  refine checkSource_of_findings_eq_nil settings h' (List.eq_nil_iff_forall_not_mem.mpr ?_)
  intro f hf
  rw [hrules, hanalysis] at hf
  obtain ⟨e', he', hf⟩ := Stream.mem_findings_audit hf
  obtain ⟨e, he, hmoves⟩ := hsettles.follows.forall₂_entryPoints.exists_of_mem_right he'
  have hbase : e ∈ (Stream.ofLexemes ls).entryPoints := by rwa [← halike.entryPoints]
  rcases hf with ⟨_, hf⟩ | ⟨_, checked, hf⟩
  · have hnone : (Stream.ofLexemes (weave chunk 0 (swapFrom fixes 0 ls))).outputFindings
        .standard e' = [] := by
      by_cases hmark : (Stream.ofLexemes (swapFrom fixes 0 ls)).AsksForMark e
      · exact Stream.outputFindings_eq_nil
          (.inl (hsettles.exempt hapart' (halike.heedsMarks.mpr hmarks) hmoves hmark))
      · refine Stream.outputFindings_fixed hapart' hsettles.follows he ?_
          (fun i hi => hsettles.agree e he i (Nat.le_of_lt hi)) hmoves hmark
        rw [halike.statementRange, halike.matched]
        exact hmatched e hbase
    rw [hnone] at hf
    cases hf
  · rcases Stream.mem_legacyFindings hf with ⟨call, hcall, receiver, hreceiver, _⟩ |
      ⟨hcalls, hlacks, _⟩
    · rw [hsettles.blockReceiver?_eq_none hapart' hmoves (fun call hcall => by
        rw [halike.escapeCalls] at hcall
        exact Stream.blockReceiver?_swapFrom hfixes halike hbase hcall) call hcall] at hreceiver
      cases hreceiver
    · obtain ⟨hlacks', hnone⟩ := hsettles.header hlacks
      have hnone' := Stream.escapeCalls_of_callsEscaper hnone he
      rw [Stream.lacksDeclaration_swap hswapped.swap] at hlacks'
      rw [halike.callsEscaper] at hnone
      refine hcalls (hsettles.escapeCalls_eq_nil hapart' (fun f hf => ?_) hmoves hnone')
      rw [halike.allOutputFixes] at hf
      exact hheader.isWrap_eq_false hlacks' hnone hf

/-- A call on the block, an output that is wrapped and one that is marked, in a template without the
declaration. -/
theorem fixing_settles_block :
    ∃ s s', tokenize "<?php echo $block->escapeHtml($a).$b?><?=$json?>" = .ok s ∧
      tokenize ("<?php /** @var \\Magento\\Framework\\Escaper $escaper */\necho " ++
        "$escaper->escapeHtml($a).$escaper->escapeHtml($b)?><?=/* @noEscape */ $json?>") =
          .ok s' ∧
      s.EntriesApart ∧ (∀ e ∈ s.entryPoints, s.Matched (s.statementRange e)) ∧
      s.ClearOfSlashes ∧ s.HeedsMarks ∧ s.DeclaresInTime ∧
      ∃ c', checkSource { Settings.default (fun _ => none) with analysis := ⟨true, true, true⟩ }
          ("<?php /** @var \\Magento\\Framework\\Escaper $escaper */\necho " ++
          "$escaper->escapeHtml($a).$escaper->escapeHtml($b)?><?=/* @noEscape */ $json?>") =
            .ok c' ∧ c'.diagnostics = [] ∧ c'.fixed = none := by
  obtain ⟨source, hsource⟩ : ∃ source,
      source = "<?php echo $block->escapeHtml($a).$b?><?=$json?>" := ⟨_, rfl⟩
  obtain ⟨text, htext⟩ : ∃ text,
      text = "<?php /** @var \\Magento\\Framework\\Escaper $escaper */\necho " ++
        "$escaper->escapeHtml($a).$escaper->escapeHtml($b)?><?=/* @noEscape */ $json?>" :=
    ⟨_, rfl⟩
  rw [← hsource, ← htext]
  obtain ⟨hfault, hapart, hmatched, hslash, hmarks, hheader, hdraft⟩ :
      (Lexed.ofSource source).fault = none ∧ (Lexed.ofSource source).stream.EntriesApart ∧
        (∀ e ∈ (Lexed.ofSource source).stream.entryPoints, (Lexed.ofSource source).stream.Matched
          ((Lexed.ofSource source).stream.statementRange e)) ∧
        (Lexed.ofSource source).stream.ClearOfSlashes ∧
        (Lexed.ofSource source).stream.HeedsMarks ∧
        (Lexed.ofSource source).stream.DeclaresInTime ∧
        (((Lexed.ofSource source).stream.audit .standard ⟨true, true, true⟩).draft?
          (Lexed.ofSource source).stream ⟨true, true, true⟩).bind Draft.fixed? = some text := by
    rw [hsource, htext]
    decide +kernel
  have hold := tokenize_of_fault_eq_none hfault
  have hnew : tokenize text = .ok (Lexed.ofSource text).stream :=
    tokenize_of_fault_eq_none (by rw [htext]; decide +kernel)
  obtain ⟨c, hc, _, hfixed⟩ := checkSource_of_tokenize
    { Settings.default (fun _ => none) with analysis := ⟨true, true, true⟩ } hold
  exact ⟨_, _, hold, hnew, hapart, hmatched, hslash, hmarks, hheader,
    fixing_settles rfl rfl hold hapart hmatched hslash hmarks hheader hc
      (hfixed.trans hdraft) hnew⟩

/-- A second run on a fixed template that has something to report. -/
def ReportsAgain (source text : String) : Prop :=
  ∃ s' c c',
    checkSource { Settings.default (fun _ => none) with analysis := ⟨true, true, true⟩ } source =
      .ok c ∧ c.fixed = some text ∧ tokenize text = .ok s' ∧
    checkSource { Settings.default (fun _ => none) with analysis := ⟨true, true, true⟩ } text =
      .ok c' ∧ c'.diagnostics ≠ []

theorem ReportsAgain.of_streams {source text : String}
    (hold : (Lexed.ofSource source).fault = none ∧
      (((Lexed.ofSource source).stream.audit .standard ⟨true, true, true⟩).draft?
        (Lexed.ofSource source).stream ⟨true, true, true⟩).bind Draft.fixed? = some text)
    (hnew : (Lexed.ofSource text).fault = none ∧
      ((Lexed.ofSource text).stream.audit .standard ⟨true, true, true⟩).findings.isEmpty = false) :
    ReportsAgain source text := by
  obtain ⟨c, hc, _, hfixed⟩ := checkSource_of_tokenize
    { Settings.default (fun _ => none) with analysis := ⟨true, true, true⟩ }
    (tokenize_of_fault_eq_none hold.1)
  have htokenize := tokenize_of_fault_eq_none hnew.1
  obtain ⟨c', hc', hdiagnostics, _⟩ := checkSource_of_tokenize
    { Settings.default (fun _ => none) with analysis := ⟨true, true, true⟩ } htokenize
  refine ⟨_, c, c', hc, hfixed.trans hold.2, htokenize, hc', fun hnil => ?_⟩
  rw [hdiagnostics, Audit.diagnostics, List.map_eq_nil_iff] at hnil
  have hempty : ((Lexed.ofSource text).stream.audit .standard ⟨true, true, true⟩).findings = [] :=
    hnil
  rw [hempty] at hnew
  cases hnew.2

/-- A wrap in a template without the declaration, a mark in a `print`, a mark behind another comment, a
mark that a `/` turns into a comment to the end of the line, a parenthesis that does not match, and a
`print` in another statement. -/
theorem fixing_unsettled :
    ReportsAgain "<?php echo $a;" "<?php echo $escaper->escapeHtml($a);" ∧
      ReportsAgain "<?php print $json;" "<?php print /* @noEscape */ $json;" ∧
      ReportsAgain "<?=/**/$json?>" "<?=/**//* @noEscape */ $json?>" ∧
      ReportsAgain "x<?php 1/echo $json.'\nprint $x;#'?>"
        "x<?php 1//* @noEscape */ echo $json.'\nprint $x;#'?>" ∧
      ReportsAgain "<?=$a->b(.$c?>" "<?=$escaper->escapeHtml($a->b().$escaper->escapeHtml($c)?>" ∧
      ReportsAgain "<?=$q?$x,print $a:count()->f?>"
        "<?=$q?$escaper->escapeHtml($x,print $escaper->escapeHtml($a):count()->f)?>" := by
  refine ⟨.of_streams ?_ ?_, .of_streams ?_ ?_, .of_streams ?_ ?_, .of_streams ?_ ?_,
    .of_streams ?_ ?_, .of_streams ?_ ?_⟩
  all_goals decide +kernel

end EscapeAudit
