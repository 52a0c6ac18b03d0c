import EscapeAudit.Proofs.Declaration

/-!
# Migration to the escaper

The fixes for escaping through the block put the escaper in the place of `$block` and the declaration
behind the open tag.  With the swaps made, every statement has the calls that it had before
(`Alike.escapeCalls`), and no call is made on the block (`blockReceiver?_swapFrom`).  It does not matter
that a swap may be asked for by several calls: only the first changeset for a receiver is accepted, and
one is enough.

The fixed template is the one with the swaps made, each token replaced by a chunk.  The chunks are
those of the fixes for output, with the declaration or without it (`Layered.reads_fixes`).  They bring
no call on the block (`blockReceiver?_weave`), and the header lacks the declaration only if nothing
asked for it (`Declares.header`).  So one round of migration leaves nothing to report
(`migration_converges`).
-/

namespace EscapeAudit

open Lexer

namespace Stream

/-! ## Calls with the swaps made -/

theorem Alike.escapeCalls {s s' : Stream} (h : Alike s s') (e : Nat) :
    s'.escapeCalls .standard e = s.escapeCalls .standard e := by
  rw [Stream.escapeCalls, Stream.escapeCalls, h.statementEnd]
  congr 1
  funext i
  rcases h.text i with htext | ⟨_, hblock, hescaper⟩
  · rw [htext]
  · rw [hblock, hescaper]
    decide

theorem Alike.callsEscaper {s s' : Stream} (h : Alike s s') : s'.callsEscaper = s.callsEscaper := by
  rw [Stream.callsEscaper, Stream.callsEscaper, h.entryPoints]
  simp only [h.escapeCalls]

theorem Alike.isReceiver {s s' : Stream} (h : Alike s s') :
    s'.isReceiver .standard = s.isReceiver .standard := by
  funext i
  rw [Stream.isReceiver, Stream.isReceiver]
  rcases h.text i with htext | ⟨_, hblock, hescaper⟩
  · rw [htext]
  · rw [hblock, hescaper]
    rfl

theorem escapeCalls_of_callsEscaper {s : Stream} (h : s.callsEscaper = false) {e : Nat}
    (he : e ∈ s.entryPoints) : s.escapeCalls .standard e = [] := by
  have hnone := List.any_eq_false.mp h e he
  simpa using hnone

/-- With the swaps made, no call is made on the block. -/
theorem blockReceiver?_swapFrom {ls : List Lexeme} {fixes : List Fix} {output fixing : Bool}
    (hfixes : fixes = (ofLexemes ls).fixes ⟨output, true, fixing⟩)
    (halike : Alike (ofLexemes ls) (ofLexemes (swapFrom fixes 0 ls))) {e : Nat}
    (he : e ∈ (ofLexemes ls).entryPoints) {call : Nat}
    (hcall : call ∈ (ofLexemes ls).escapeCalls .standard e) :
    (ofLexemes (swapFrom fixes 0 ls)).blockReceiver? .standard e call = none := by
  cases hreceiver : (ofLexemes (swapFrom fixes 0 ls)).blockReceiver? .standard e call with
  | none => rfl
  | some i =>
    exfalso
    obtain ⟨hlast, htext⟩ := blockReceiver?_eq_some hreceiver
    rw [halike.isReceiver] at hlast
    have hblock : (ofLexemes ls).text i = blockAccessor := by
      rcases halike.text i with heq | ⟨_, hblock, _⟩
      · rw [← heq, htext]
      · exact hblock
    have hswap : .swap i ∈ fixes := by
      rw [hfixes]
      refine swap_mem_fixes_iff.mpr ⟨e, he, call, hcall, ?_⟩
      rw [blockReceiver?, hlast]
      simp [hblock]
    rw [text_ofLexemes, getElem?_swapFrom, Nat.zero_add, any_swaps_iff.mpr hswap] at htext
    cases hl : ls[i]? with
    | none =>
      rw [hl] at htext
      exact absurd htext (by decide)
    | some l =>
      rw [hl] at htext
      exact absurd htext (show "$escaper" ≠ blockAccessor by decide)

section Weave

variable {ls : List Lexeme} {chunk : Nat → Lexeme → List Lexeme} {fixes : List Fix} {e e' : Nat}

/-- The fixes for output bring no call on the block. -/
theorem blockReceiver?_weave (hfollows : Follows ls chunk)
    (hagree : ∀ i, e ≤ i → chunk i = fusedChunk fixes i) (htidy : Tidy fixes)
    (hmoves : Follows.Moves ls chunk e e')
    (hnone : ∀ call ∈ (ofLexemes ls).escapeCalls .standard e,
      (ofLexemes ls).blockReceiver? .standard e call = none) :
    ∀ call ∈ (ofLexemes (weave chunk 0 ls)).escapeCalls .standard e',
      (ofLexemes (weave chunk 0 ls)).blockReceiver? .standard e' call = none := by
  obtain ⟨before, l, content, after, pre, hst, rfl, hpre, _, rfl⟩ := hmoves.isStatement
  have hclean := (clean_statement_iff hst).mpr hnone
  refine (clean_statement_iff (hfollows.isStatement hst hpre)).mp ⟨hclean.1, ?_⟩
  rw [weave_congr fun j hj => hagree j (by omega)]
  exact hclean.2.weave htidy

/-- Without a wrap, the fixes for output bring no call. -/
theorem escapeCalls_weave_eq_nil (hfollows : Follows ls chunk)
    (hagree : ∀ i, e ≤ i → chunk i = fusedChunk fixes i) (htidy : Tidy fixes)
    (hwraps : ∀ f ∈ fixes, f.isWrap = false) (hmoves : Follows.Moves ls chunk e e')
    (hnone : (ofLexemes ls).escapeCalls .standard e = []) :
    (ofLexemes (weave chunk 0 ls)).escapeCalls .standard e' = [] := by
  obtain ⟨before, l, content, after, pre, hst, rfl, hpre, _, rfl⟩ := hmoves.isStatement
  rw [escapeCalls_eq_nil_iff hst] at hnone
  rw [escapeCalls_eq_nil_iff (hfollows.isStatement hst hpre)]
  intro m hm
  rcases List.mem_cons.mp hm with rfl | hm
  · exact hnone m (by simp)
  · rw [weave_congr fun j hj => hagree j (by omega)] at hm
    obtain ⟨j, k, hk, hm⟩ := mem_weave hm
    have hown := hnone k (List.mem_cons_of_mem _ (List.mem_of_getElem? hk))
    have hchunk := htidy.fusedChunk (before.length + 1 + j) k
    generalize fusedChunk fixes (before.length + 1 + j) k = c at hm hchunk
    cases hchunk with
    | keep => rwa [List.mem_singleton.mp hm]
    | whole hf => cases hwraps _ hf
    | first hf => cases hwraps _ hf
    | last hf => cases hwraps _ hf
    | mark =>
      simp only [exemptionMark, List.cons_append, List.nil_append, List.mem_cons,
        List.not_mem_nil, or_false] at hm
      rcases hm with rfl | rfl | rfl
      · decide
      · decide
      · exact hown

end Weave

/-! ## The declaration -/

/-- Chunks with the declaration, if that is asked for. -/
inductive Declares (chunk : Nat → Lexeme → List Lexeme) :
    List Lexeme → (Nat → Lexeme → List Lexeme) → Prop where
  /-- The header has the declaration, or no statement has a call. -/
  | needless {ls : List Lexeme} :
    ((ofLexemes ls).lacksDeclaration && (ofLexemes ls).callsEscaper) = false →
    Declares chunk ls chunk
  /-- The declaration is put behind the open tag. -/
  | behind {l : Lexeme} {ls : List Lexeme} {blank : Bool} : l.kind = .openTag →
    (blank = true → ∃ m, ls.head? = some m ∧ m.kind = .whitespace) →
    Declares chunk (l :: ls) (declaredChunk blank chunk)

namespace Declares

variable {ls : List Lexeme} {chunk declared : Nat → Lexeme → List Lexeme}

theorem follows (h : Declares chunk ls declared) (hfollows : Follows ls chunk) :
    Follows ls declared := by
  cases h with
  | needless => exact hfollows
  | behind hl hblank => exact hfollows.declared hl hblank

/-- From the first statement on, the declaration is of no account. -/
theorem agree (h : Declares chunk ls declared) {e : Nat} (he : e ∈ (ofLexemes ls).entryPoints)
    {i : Nat} (hi : e ≤ i) : declared i = chunk i := by
  cases h with
  | needless => rfl
  | behind hl hblank => exact declaredChunk_of_entry hl hblank _ he hi

/-- The header lacks the declaration only if nothing asks for it. -/
theorem header {fixes : List Fix} (htidy : Tidy fixes) (h : Declares (fusedChunk fixes) ls declared)
    (hlacks : (ofLexemes (weave declared 0 ls)).lacksDeclaration = true) :
    (ofLexemes ls).lacksDeclaration = true ∧ (ofLexemes ls).callsEscaper = false := by
  cases h with
  | needless hneedless =>
    have hlacks := lacksDeclaration_of_weave htidy hlacks
    rw [hlacks, Bool.true_and] at hneedless
    exact ⟨hlacks, hneedless⟩
  | behind hl hblank =>
    have hcomment : Text.contains declarationComment.text escaperClass = true := by decide +kernel
    rw [lacksDeclaration_ofLexemes, Bool.and_eq_true, weave, declaredChunk, List.cons_append,
      List.cons_append, headerNames, headerNames, hcomment, hl] at hlacks
    simp [declarationComment] at hlacks

end Declares

/-! ## The tokens of a fixed template -/

/-- Behind an open tag at its beginning, a template is not touched at the first token but by the
declaration. -/
theorem first_pos_of_mem_fixes {l : Lexeme} {ls : List Lexeme} {output fixing : Bool} {f : Fix}
    (hf : f ∈ (ofLexemes (l :: ls)).fixes ⟨output, true, fixing⟩) (hsound : f.Sound (l :: ls))
    (hl : l.kind = .openTag) : f = .declare ∨ 0 < f.first ∧ 0 < f.last := by
  cases hinsertion : f.isInsertion with
  | true =>
    obtain ⟨e, he, hf⟩ := List.mem_flatMap.mp (mem_allOutputFixes_of_isInsertion hf hinsertion)
    obtain ⟨_, hfirst, hlast, _⟩ := span_of_mem_outputFixes hf
    obtain ⟨i, _, rfl, _⟩ := exists_of_mem_entryPoints_cons (by rw [hl]; rfl) he
    exact .inr (by omega)
  | false =>
    cases f with
    | wrap => cases hinsertion
    | mark => cases hinsertion
    | declare => exact .inl rfl
    | swap place =>
      cases place with
      | zero =>
        obtain rfl := Option.some.inj hsound
        cases hl
      | succ place => exact .inr ⟨Nat.succ_pos _, Nat.succ_pos _⟩

/-- Fixes that can be put in, the swaps first and then the insertions, which stand apart. -/
structure Layered (ls : List Lexeme) (fixes : List Fix) : Prop where
  sound : ∀ f ∈ fixes, f.Sound ls
  tidy : Tidy (fixes.filter Fix.isInsertion)
  enclosing : ∀ f ∈ fixes.filter Fix.isInsertion, f.Enclosing (swapFrom fixes 0 ls)

namespace Layered

variable {ls : List Lexeme} {fixes : List Fix} {cs : List Char} {t : State} {d : Draft}

theorem swap (h : Layered ls fixes) : List.Forall₂ Swap ls (swapFrom fixes 0 ls) :=
  forall₂_swapFrom fun j hj => by
    rw [Nat.zero_add] at hj
    exact h.sound _ hj

theorem unfused (h : Layered ls fixes) (hreads : Reads .initial cs ls t []) :
    Unfused (swapFrom fixes 0 ls) :=
  unfused_swap h.swap (hreads.unfused trivial)

/-- Without the declaration, the fixed template is made of the chunks of the insertions. -/
theorem reads_undeclared (h : Layered ls fixes) (hreads : Reads .initial cs ls t [])
    (hshows : Shows d ls fixes) (hdeclare : .declare ∉ fixes) :
    ∃ u, Reads .initial d.text.toList
      (weave (fusedChunk (fixes.filter Fix.isInsertion)) 0 (swapFrom fixes 0 ls)) u [] := by
  obtain ⟨ms, u, hms, hfuses⟩ := reads_weave hreads h.sound
  rw [weave_eq_insertions] at hms hfuses
  obtain rfl := h.tidy.fuses_weave h.enclosing (h.unfused hreads)
    (show swapFrom fixes 0 ls = [] ++ swapFrom fixes 0 ls from rfl) hfuses
  refine ⟨u, ?_⟩
  rw [hshows.toList_text_eq_chars hdeclare, weave_eq_insertions]
  exact hms

/-- With the declaration, the first token gets it, and the next one loses a line break to it. -/
theorem reads_declared {l : Lexeme} (h : Layered (l :: ls) fixes) (hl : l.kind = .openTag)
    (hls : ls ≠ []) (hreads : Reads .initial cs (l :: ls) t []) (hshows : Shows d (l :: ls) fixes)
    (hcount : fixes.count .declare = 1)
    (hfirst : ∀ f ∈ fixes, f = .declare ∨ 0 < f.first ∧ 0 < f.last) :
    ∃ chunk u,
      Declares (fusedChunk (fixes.filter Fix.isInsertion)) (swapFrom fixes 0 (l :: ls)) chunk ∧
      Reads .initial d.text.toList (weave chunk 0 (swapFrom fixes 0 (l :: ls))) u [] := by
  have hpos : ∀ f ∈ fixes.filter Fix.isInsertion, 0 < f.first ∧ 0 < f.last := by
    intro f hf
    obtain ⟨hf, hinsertion⟩ := List.mem_filter.mp hf
    refine (hfirst f hf).resolve_left fun heq => ?_
    rw [heq] at hinsertion
    cases hinsertion
  have hbehind : swapFrom fixes 1 ls ≠ [] := by
    cases ls with
    | nil => exact absurd rfl hls
    | cons m ls => exact List.cons_ne_nil _ _
  have hbase : swapFrom fixes 0 (l :: ls) = l :: swapFrom fixes 1 ls := by
    have hnone : fixes.any (Fix.swaps 0) = false := by
      rw [Bool.eq_false_iff]
      intro hany
      rcases hfirst _ (any_swaps_iff.mp hany) with heq | ⟨hpos, _⟩
      · cases heq
      · exact absurd hpos (Nat.lt_irrefl 0)
    rw [swapFrom, hnone]
    rfl
  have henclosing := h.enclosing
  have hunfused := h.unfused hreads
  obtain ⟨u, hspells⟩ := (amends_weave h.sound 0).spells (hreads.spells trivial)
  rw [List.take_zero, List.drop_zero, List.nil_append, weave_eq_insertions, hbase] at hspells
  have htext := hshows.toList_text_declared hcount hfirst
  rw [weave_eq_insertions] at htext
  rw [hbase] at henclosing hunfused ⊢
  obtain ⟨blank, hreads', hblank⟩ := EscapeAudit.reads_declared h.tidy hpos henclosing hunfused hl
    hbehind hspells
  refine ⟨_, u, .behind hl hblank, ?_⟩
  rw [htext]
  exact hreads'

/-- The fixed template is the one with the swaps made, each token replaced by its chunk. -/
theorem reads_fixes (h : Layered ls fixes) (hreads : Reads .initial cs ls t [])
    {output fixing : Bool} (hfixes : fixes = (ofLexemes ls).fixes ⟨output, true, fixing⟩)
    (hshows : Shows d ls fixes) :
    ∃ chunk u, Declares (fusedChunk (fixes.filter Fix.isInsertion)) (swapFrom fixes 0 ls) chunk ∧
      Reads .initial d.text.toList (weave chunk 0 (swapFrom fixes 0 ls)) u [] := by
  have hcount := count_declare_fixes (ofLexemes ls) output fixing
  rw [← hfixes] at hcount
  cases hdeclare : (ofLexemes ls).lacksDeclaration && (ofLexemes ls).callsEscaper with
  | false =>
    rw [hdeclare] at hcount
    obtain ⟨u, hreads'⟩ := h.reads_undeclared hreads hshows (List.count_eq_zero.mp hcount)
    refine ⟨_, u, .needless ?_, hreads'⟩
    rw [lacksDeclaration_swap h.swap, (alike_of_swap h.swap).callsEscaper, hdeclare]
  | true =>
    rw [hdeclare] at hcount
    obtain ⟨hlacks, hcalls⟩ := Bool.and_eq_true_iff.mp hdeclare
    cases ls with
    | nil => cases hlacks
    | cons l ls =>
      have hl : l.kind = .openTag := by
        rw [lacksDeclaration_ofLexemes, Bool.and_eq_true, beq_iff_eq] at hlacks
        exact Option.some.inj hlacks.1
      refine h.reads_declared hl ?_ hreads hshows hcount fun f hf => ?_
      · obtain ⟨e, he, _⟩ := List.any_eq_true.mp hcalls
        obtain ⟨i, m, _, hm, _⟩ := exists_of_mem_entryPoints_cons (by rw [hl]; rfl) he
        exact List.ne_nil_of_mem (List.mem_of_getElem? hm)
      · have hsound := h.sound f hf
        rw [hfixes] at hf
        exact first_pos_of_mem_fixes hf hsound hl

end Layered

/-! ## The rule for escaping through the block alone -/

theorem follows_fusedChunk_nil (ls : List Lexeme) : Follows ls (fusedChunk []) where
  loose := fun _ _ _ hloose m hm => by
    rw [List.mem_singleton.mp hm]
    exact .inl hloose
  entry := fun _ _ _ _ => ⟨[], rfl, by simp⟩
  fixed := fun _ _ _ _ _ => ⟨[], rfl, by simp⟩

/-- Swaps and the declaration can always be put in. -/
theorem layered_legacy {cs : List Char} {ls : List Lexeme} {t : State}
    (hreads : Reads .initial cs ls t []) {fixing : Bool} :
    Layered ls ((ofLexemes ls).fixes ⟨false, true, fixing⟩) := by
  have hnone := filter_isInsertion_fixes (ofLexemes ls) false true fixing
  refine ⟨fun f hf => sound_of_not_isInsertion (hreads.spells trivial) hf ?_, ?_, fun f hf => ?_⟩
  · rw [Bool.eq_false_iff]
    intro hinsertion
    have hmem := List.mem_filter.mpr ⟨hf, hinsertion⟩
    rw [hnone] at hmem
    cases hmem
  · rw [hnone]
    exact ⟨.nil, by simp, by simp⟩
  · rw [hnone] at hf
    cases hf

end Stream

/-- Migration converges in one round.  With the rule for escaping through the block alone, a second
run has nothing to report on the fixed template. -/
theorem migration_converges {settings : Settings} (hrules : settings.rules = .standard)
    (hanalysis : settings.analysis = ⟨false, true, true⟩) {source : String} {s : Stream}
    (h : tokenize source = .ok s) {c : Checked} (hc : checkSource settings source = .ok c)
    {text : String} (hfixed : c.fixed = some text) {s' : Stream} (h' : tokenize text = .ok s') :
    ∃ c', checkSource settings text = .ok c' ∧ c'.diagnostics = [] ∧ c'.fixed = none := by
  obtain ⟨ls, t, hreads, _, rfl⟩ := (tokenize_eq_ok_iff source s).mp h
  obtain ⟨fixes, hfixes⟩ : ∃ fixes, fixes = (Stream.ofLexemes ls).fixes ⟨false, true, true⟩ :=
    ⟨_, rfl⟩
  have hlayered : Stream.Layered ls fixes := by
    rw [hfixes]
    exact Stream.layered_legacy hreads
  have hnone : fixes.filter Fix.isInsertion = [] := by
    rw [hfixes, Stream.filter_isInsertion_fixes]
    rfl
  have hshows := (shows_ofStream ls).submitAll fun f hf => (hlayered.sound f hf).inRange
  have hdraft := eq_text_of_fixed h hc hfixed
  rw [hrules, hanalysis, Stream.changesets_audit, ← hfixes] at hdraft
  obtain ⟨chunk, u, hdeclares, hreads'⟩ := hlayered.reads_fixes hreads hfixes hshows
  rw [← hdraft] at hreads'
  obtain rfl := eq_ofLexemes_of_reads hreads' h'
  have htidy := hlayered.tidy
  rw [hnone] at hdeclares htidy
  have hfollows := hdeclares.follows (Stream.follows_fusedChunk_nil _)
  have halike := Stream.alike_of_swap hlayered.swap
  refine checkSource_of_findings_eq_nil settings h' (List.eq_nil_iff_forall_not_mem.mpr ?_)
  intro f hf
  rw [hrules, hanalysis] at hf
  obtain ⟨e', he', ⟨houtput, _⟩ | ⟨_, checked, hf⟩⟩ := Stream.mem_findings_audit hf
  · cases houtput
  obtain ⟨e, he, hmoves⟩ := hfollows.forall₂_entryPoints.exists_of_mem_right he'
  have hbase : e ∈ (Stream.ofLexemes ls).entryPoints := by rwa [← halike.entryPoints]
  have hagree := fun i (hi : e ≤ i) => hdeclares.agree he hi
  rcases Stream.mem_legacyFindings hf with ⟨call, hcall, receiver, hreceiver, _⟩ |
    ⟨hcalls, hlacks, _⟩
  · have hreceivers := Stream.blockReceiver?_weave hfollows hagree htidy hmoves
      fun call hcall => by
        rw [halike.escapeCalls] at hcall
        exact Stream.blockReceiver?_swapFrom hfixes halike hbase hcall
    rw [hreceivers call hcall] at hreceiver
    cases hreceiver
  · obtain ⟨_, hcallsEscaper⟩ := hdeclares.header htidy hlacks
    exact hcalls (Stream.escapeCalls_weave_eq_nil hfollows hagree htidy (by simp) hmoves
      (Stream.escapeCalls_of_callsEscaper hcallsEscaper he))

/-- Two statements, one in the other, with two calls each on one receiver.  Of the four swaps that are
asked for, three are refused. -/
theorem migration_converges_shared_receiver :
    ∃ s s', tokenize "<?php echo print $block->escapeHtml($a.escapeJs($b))?>" = .ok s ∧
      tokenize ("<?php /** @var \\Magento\\Framework\\Escaper $escaper */\n" ++
        "echo print $escaper->escapeHtml($a.escapeJs($b))?>") = .ok s' ∧
      ((s.audit .standard ⟨false, true, true⟩).draft? s ⟨false, true, true⟩).map
        (fun d => (d.applied, d.rejected)) = some (2, 3) ∧
      ∃ c', checkSource { Settings.default (fun _ => none) with analysis := ⟨false, true, true⟩ }
          ("<?php /** @var \\Magento\\Framework\\Escaper $escaper */\n" ++
            "echo print $escaper->escapeHtml($a.escapeJs($b))?>") = .ok c' ∧
        c'.diagnostics = [] ∧ c'.fixed = none := by
  obtain ⟨source, hsource⟩ : ∃ source,
      source = "<?php echo print $block->escapeHtml($a.escapeJs($b))?>" := ⟨_, rfl⟩
  obtain ⟨text, htext⟩ : ∃ text,
      text = "<?php /** @var \\Magento\\Framework\\Escaper $escaper */\n" ++
        "echo print $escaper->escapeHtml($a.escapeJs($b))?>" := ⟨_, rfl⟩
  rw [← hsource, ← htext]
  obtain ⟨hfault, hcounts, hdraft⟩ : (Lexed.ofSource source).fault = none ∧
      (((Lexed.ofSource source).stream.audit .standard ⟨false, true, true⟩).draft?
        (Lexed.ofSource source).stream ⟨false, true, true⟩).map
          (fun d => (d.applied, d.rejected)) = some (2, 3) ∧
      (((Lexed.ofSource source).stream.audit .standard ⟨false, true, true⟩).draft?
        (Lexed.ofSource source).stream ⟨false, true, true⟩).bind Draft.fixed? = some text := by
    rw [hsource, htext]
    decide +kernel
  have hold := tokenize_of_fault_eq_none hfault
  have hnew : tokenize text = .ok (Lexed.ofSource text).stream :=
    tokenize_of_fault_eq_none (by rw [htext]; decide +kernel)
  obtain ⟨c, hc, _, hfixed⟩ := checkSource_of_tokenize
    { Settings.default (fun _ => none) with analysis := ⟨false, true, true⟩ } hold
  exact ⟨_, _, hold, hnew, hcounts,
    migration_converges rfl rfl hold hc (hfixed.trans hdraft) hnew⟩

end EscapeAudit
