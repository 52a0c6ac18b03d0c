import EscapeAudit.Proofs.Convergence
import EscapeAudit.Proofs.Receivers

/-!
# The targets of fixes

Fixes are about code.  The fixes for the output of a statement are insertions inside it, or before
the `echo` that opens it (`edits_of_mem_outputFindings`).  The fixes for escaping through the block
are about a variable `$block` inside a statement, and about an open tag at the beginning of the
template.  Inside a statement there is neither markup nor a tag, so none of them is about one, apart
from the text behind that open tag (`onCode_of_mem_changesets`).

This holds for every table of rules.  The texts that the fixes bring are not looked at, so it is the
fixed text that keeps the markup: it is made of one piece for each token, and the piece of markup or
of a tag is that markup or that tag (`fixes_spare_markup`).
-/

namespace EscapeAudit

open Lexer

namespace Edit

/-- Whether an edit leaves the text of its token as it is. -/
def isInsertion : Edit → Bool
  | insertBefore _ _ | insertAfter _ _ => true
  | replace _ _ => false

/-- An edit is about a token that is neither markup nor a tag, or it puts a text behind an open tag
at the beginning of the template. -/
def OnCode (s : Stream) (e : Edit) : Prop :=
  ∃ k, s.kind? e.token = some k ∧ k ≠ .inlineHtml ∧ k ≠ .closeTag ∧ k ≠ .openTagWithEcho ∧
    (k = .openTag → ∃ text, e = .insertAfter 0 text)

theorem OnCode.of_not_isSkeleton {s : Stream} {e : Edit} {k : Kind} (hk : s.kind? e.token = some k)
    (h : k.isSkeleton = false) : e.OnCode s := by
  refine ⟨k, hk, ?_, ?_, ?_, ?_⟩
  all_goals
    rintro rfl
    cases h

end Edit

theorem Kind.not_isSkeleton_of_region {k : Kind} (h : k.region ≠ .markup)
    (hafter : k.regionAfter ≠ .markup) : k.isSkeleton = false := by
  cases k <;> first | rfl | exact absurd rfl h | exact absurd rfl hafter

/-! ## The edits of the two rules -/

/-- A decision brings insertions at the leaf or at the place of the mark. -/
theorem Decision.edits_of_changeset? {rules : RuleSet} {d : Decision} {c : Changeset}
    (h : d.changeset? rules = some c) :
    c.edits ≠ [] ∧ ∀ e ∈ c.edits, e.isInsertion = true ∧
      (e.token = d.first ∨ e.token = d.last ∨ e.token = d.markerAt) := by
  unfold changeset? at h
  split at h
  · cases h
  · cases h
    exact ⟨by simp, by simp [Edit.isInsertion, Edit.token]⟩
  · cases h
    exact ⟨by simp, by simp [Edit.isInsertion, Edit.token]⟩

namespace Stream

/-- A token inside the statement that an entry point opens, or the entry point itself if it is an
`echo`. -/
def WithinStatement (s : Stream) (entry i : Nat) : Prop :=
  entry < i ∧ i < s.statementEnd entry ∨ s.kind? entry = some .echo ∧ i = entry

/-- The fix of a finding about output is made of insertions within the statement. -/
theorem edits_of_mem_outputFindings {s : Stream} {rules : RuleSet} {entry : Nat} {f : Finding}
    {c : Changeset} (hf : f ∈ s.outputFindings rules entry) (hfix : f.fix = some c) :
    c.edits ≠ [] ∧ ∀ e ∈ c.edits, e.isInsertion = true ∧ s.WithinStatement entry e.token := by
  obtain ⟨l, hl, anchor, _, hdecide⟩ := fix_of_mem_outputFindings hf hfix
  obtain ⟨hfirst, hle, hlast⟩ := (s.leaves_statementWalk entry).2 l hl
  obtain ⟨hne, hedits⟩ := Decision.edits_of_changeset? hdecide
  refine ⟨hne, fun e he => ?_⟩
  obtain ⟨hinsertion, htoken⟩ := hedits e he
  refine ⟨hinsertion, ?_⟩
  have hinside : ∀ {i}, l.first ≤ i → i ≤ l.last → s.WithinStatement entry i :=
    fun hi hi' => .inl ⟨by omega, by omega⟩
  rcases htoken with htoken | htoken | htoken
  · rw [htoken]
    exact hinside (Nat.le_refl _) hle
  · rw [htoken]
    exact hinside hle (Nat.le_refl _)
  · rw [htoken]
    -- A mark stands before the keyword or before the leaf.
    dsimp only [decide]
    split
    · rename_i hecho
      exact .inr ⟨by simpa using hecho, rfl⟩
    · exact hinside (Nat.le_refl _) hle

/-- The receiver of an escaping call stands inside the statement. -/
theorem blockReceiver?_inside {ls : List Lexeme} {t : State} (h : Spells .initial ls [] t)
    {rules : RuleSet} {e call i : Nat} (he : e ∈ (ofLexemes ls).entryPoints)
    (hcall : call ∈ (ofLexemes ls).escapeCalls rules e)
    (hi : (ofLexemes ls).blockReceiver? rules e call = some i) :
    e < i ∧ i < (ofLexemes ls).statementEnd e := by
  obtain ⟨hle, hlt, _⟩ := lastFrom_eq_some_iff.mp (blockReceiver?_eq_some hi).1
  obtain ⟨_, hend, _⟩ := mem_escapeCalls_iff.mp hcall
  refine ⟨Nat.lt_of_le_of_ne hle ?_, by omega⟩
  rintro rfl
  have hentry := (List.mem_filter.mp he).2
  rw [not_holds_ofLexemes (getElem?_blockReceiver? h he hcall hi) rfl] at hentry
  cases hentry

/-! ## No fix is about markup -/

theorem exists_kind_of_inside {ls : List Lexeme} {t : State} (h : Spells .initial ls [] t)
    {entry i : Nat} (hentry : entry ∈ (ofLexemes ls).entryPoints) (hlt : entry < i)
    (hend : i < (ofLexemes ls).statementEnd entry) :
    ∃ k, (ofLexemes ls).kind? i = some k ∧ k.isSkeleton = false := by
  have hsize : i < ls.length := by
    have := (ofLexemes ls).statementEnd_le_size entry
    rw [size_ofLexemes] at this
    omega
  have hl : ls[i]? = some ls[i] := List.getElem?_eq_getElem hsize
  obtain ⟨hregion, hafter⟩ := region_inside h (List.mem_filter.mp hentry).2 hlt hend hl
  exact ⟨_, by rw [kind?_ofLexemes, hl]; rfl, Kind.not_isSkeleton_of_region hregion hafter⟩

/-- No fix of an audit is about markup. -/
theorem onCode_of_mem_changesets {ls : List Lexeme} {t : State} (h : Spells .initial ls [] t)
    {rules : RuleSet} {a : AnalysisSettings} {c : Changeset}
    (hc : c ∈ ((ofLexemes ls).audit rules a).changesets) {e : Edit} (he : e ∈ c.edits) :
    e.OnCode (ofLexemes ls) := by
  obtain ⟨f, hf, hfix⟩ := List.mem_filterMap.mp hc
  obtain ⟨entry, hentry, ⟨_, hf⟩ | ⟨_, checked, hf⟩⟩ := mem_findings_audit hf
  · rcases ((edits_of_mem_outputFindings hf hfix).2 e he).2 with ⟨hlt, hend⟩ | ⟨hecho, htoken⟩
    · obtain ⟨k, hk, hplain⟩ := exists_kind_of_inside h hentry hlt hend
      exact .of_not_isSkeleton hk hplain
    · exact .of_not_isSkeleton (k := .echo) (by rw [htoken, hecho]) rfl
  · rcases mem_legacyFindings hf with ⟨call, hcall, receiver, hreceiver, rfl⟩ | ⟨_, hlacks, rfl⟩
    · cases hfix
      obtain rfl := List.mem_singleton.mp he
      obtain ⟨hlt, hend⟩ := blockReceiver?_inside h hentry hcall hreceiver
      obtain ⟨k, hk, hplain⟩ := exists_kind_of_inside h hentry hlt hend
      exact .of_not_isSkeleton hk hplain
    · cases hfix
      obtain rfl := List.mem_singleton.mp he
      have hopen : (ofLexemes ls).kind? 0 = some .openTag := by
        simpa using (Bool.and_eq_true_iff.mp hlacks).1
      exact ⟨.openTag, hopen, by simp, by simp, by simp, fun _ => ⟨_, rfl⟩⟩

/-- The findings about output come from the statements in order, if that rule is switched on. -/
theorem filter_isOutput_findings (s : Stream) (rules : RuleSet) (a : AnalysisSettings) :
    (s.audit rules a).findings.filter Finding.isOutput =
      if a.unescapedOutput then s.entryPoints.flatMap (s.outputFindings rules) else [] := by
  cases ha : a.unescapedOutput with
  | true => exact s.output_findings_audit rules ha
  | false =>
    refine List.filter_eq_nil_iff.mpr fun f hf => ?_
    obtain ⟨_, _, ⟨hon, _⟩ | ⟨_, _, hf⟩⟩ := mem_findings_audit hf
    · rw [ha] at hon
      cases hon
    · simp [not_isOutput_of_mem_legacyFindings hf]

end Stream

/-! ## The fixed text -/

namespace Draft

/-- The markup and the tags have no changes, but for what is put behind an open tag at the
beginning. -/
structure Spares (s : Stream) (patches : Array Patch) : Prop where
  size : patches.size = s.size
  own : ∀ i p, patches[i]? = some p → s.holds Kind.isSkeleton i = true →
    p.before = "" ∧ p.replacement = none ∧ (p.after = "" ∨ i = 0 ∧ s.kind? 0 = some .openTag)

theorem spares_ofStream (s : Stream) : Spares s (ofStream s).patches := by
  refine ⟨by simp [ofStream], fun i p hp _ => ?_⟩
  obtain ⟨_, rfl⟩ : i < s.size ∧ Patch.none = p := by
    simpa [ofStream, Array.getElem?_replicate] using hp
  exact ⟨rfl, rfl, .inl rfl⟩

theorem Spares.patched {s : Stream} {patches : Array Patch} (h : Spares s patches) {e : Edit}
    (he : e.OnCode s) : Spares s (patched patches e) := by
  refine ⟨by rw [Draft.patched, Array.size_modify, h.size], fun i p hp hskeleton => ?_⟩
  rw [Draft.patched, Array.getElem?_modify] at hp
  split at hp
  · rename_i htoken
    subst htoken
    obtain ⟨q, hq, rfl⟩ := Option.map_eq_some_iff.mp hp
    obtain ⟨hbefore, hown, _⟩ := h.own _ q hq hskeleton
    obtain ⟨k, hk, hmarkup, hclose, hecho, hopen⟩ := he
    obtain ⟨k', hk', htest⟩ := Stream.holds_iff.mp hskeleton
    obtain rfl : k = k' := Option.some.inj (hk.symm.trans hk')
    -- Of markup and tags only an open tag is left, and an edit at it is an insertion behind it.
    have htag : k = .openTag := by
      revert hmarkup hclose hecho htest
      cases k <;> simp [Kind.isSkeleton]
    subst htag
    obtain ⟨text, rfl⟩ := hopen rfl
    exact ⟨hbefore, hown, .inr ⟨rfl, hk⟩⟩
  · exact h.own i p hp hskeleton

theorem Spares.submit {s : Stream} {d : Draft} (h : Spares s d.patches) {c : Changeset}
    (hc : ∀ e ∈ c.edits, e.OnCode s) : Spares s (d.submit c).patches := by
  have hfold : ∀ (edits : List Edit) (patches : Array Patch), Spares s patches →
      (∀ e ∈ edits, e.OnCode s) → Spares s (edits.foldl Draft.patched patches) := by
    intro edits
    induction edits with
    | nil => exact fun patches h _ => h
    | cons e edits ih =>
      intro patches h hedits
      exact ih _ (h.patched (hedits e List.mem_cons_self)) fun e' he' =>
        hedits e' (List.mem_cons_of_mem e he')
  unfold Draft.submit
  split
  · exact h
  · exact hfold c.edits d.patches h hc

theorem Spares.submitAll {s : Stream} {d : Draft} (h : Spares s d.patches) {cs : List Changeset}
    (hcs : ∀ c ∈ cs, ∀ e ∈ c.edits, e.OnCode s) : Spares s (d.submitAll cs).patches := by
  induction cs generalizing d with
  | nil => exact h
  | cons c cs ih =>
    exact ih (h.submit (hcs c List.mem_cons_self)) fun c' hc' => hcs c' (List.mem_cons_of_mem c hc')

theorem stream_submitAll (d : Draft) (cs : List Changeset) : (d.submitAll cs).stream = d.stream := by
  induction cs generalizing d with
  | nil => rfl
  | cons c cs ih =>
    refine (ih (d.submit c)).trans ?_
    unfold submit
    split <;> rfl

/-- The texts of the tokens, each with its changes. -/
def pieces (d : Draft) : List String :=
  (d.stream.tokens.toList.zip d.patches.toList).map fun z => z.2.apply z.1.text

theorem text_eq_join (d : Draft) : d.text = String.join d.pieces := by
  rw [text, ← Array.foldl_toList, Array.toList_zip, pieces, String.join, List.foldl_map]

theorem getElem?_pieces {d : Draft} {i : Nat} {piece : String} (h : d.pieces[i]? = some piece) :
    ∃ p, d.patches[i]? = some p ∧ piece = p.apply (d.stream.text i) := by
  rw [pieces, List.getElem?_map] at h
  obtain ⟨⟨t, p⟩, hz, rfl⟩ := Option.map_eq_some_iff.mp h
  obtain ⟨ht, hp⟩ := List.getElem?_zip_eq_some.mp hz
  rw [Array.getElem?_toList] at ht hp
  exact ⟨p, hp, by rw [Stream.text, ht]; rfl⟩

end Draft

/-- Fixes are about code, for every table of rules.  Every edit is about a token that exists and is
neither markup nor a tag, or it is an insertion behind an open tag at the beginning.  The fixes for
output come from the statements in order, and each stays within its statement.  The fixed text has
one piece for each token, and markup and tags are their own pieces. -/
theorem fixes_spare_markup (settings : Settings) {source : String} {s : Stream}
    (h : tokenize source = .ok s) :
    let audit := s.audit settings.rules settings.analysis
    (∀ c ∈ audit.changesets, ∀ e ∈ c.edits, ∃ k, s.kind? e.token = some k ∧ k ≠ .inlineHtml ∧
      k ≠ .closeTag ∧ k ≠ .openTagWithEcho ∧ (k = .openTag → ∃ text, e = .insertAfter 0 text)) ∧
    (audit.findings.filter Finding.isOutput = if settings.analysis.unescapedOutput then
      s.entryPoints.flatMap (s.outputFindings settings.rules) else []) ∧
    (∀ entry ∈ s.entryPoints, ∀ c ∈ s.outputChangesets settings.rules entry, ∀ e ∈ c.edits,
      entry < e.token ∧ e.token < s.statementEnd entry ∨
        s.kind? entry = some .echo ∧ e.token = entry) ∧
    ∃ checked, checkSource settings source = .ok checked ∧ ∀ text, checked.fixed = some text →
      ∃ pieces : List String, text = String.join pieces ∧ pieces.length = s.size ∧
        ∀ i piece, pieces[i]? = some piece → s.holds Kind.isSkeleton i = true →
          piece = s.text i ∨
            i = 0 ∧ s.kind? 0 = some .openTag ∧ ∃ more, piece = s.text 0 ++ more := by
  intro audit
  obtain ⟨ls, t, hreads, _, rfl⟩ := (tokenize_eq_ok_iff source s).mp h
  have hcode : ∀ c ∈ audit.changesets, ∀ e ∈ c.edits, e.OnCode (.ofLexemes ls) :=
    fun c hc e he => Stream.onCode_of_mem_changesets (hreads.spells trivial) hc he
  refine ⟨hcode, Stream.filter_isOutput_findings _ _ _, fun entry _ c hc e he => ?_, ?_⟩
  · obtain ⟨f, hf, hfix⟩ := List.mem_filterMap.mp hc
    exact ((Stream.edits_of_mem_outputFindings hf hfix).2 e he).2
  · obtain ⟨checked, hchecked, _⟩ := checkSource_of_tokenize settings h
    refine ⟨checked, hchecked, fun text hfixed => ?_⟩
    rw [eq_text_of_fixed h hchecked hfixed, Draft.text_eq_join]
    have hspares := (Draft.spares_ofStream (.ofLexemes ls)).submitAll hcode
    have hstream := (Draft.ofStream (.ofLexemes ls)).stream_submitAll audit.changesets
    generalize (Draft.ofStream (.ofLexemes ls)).submitAll audit.changesets = d at hspares hstream ⊢
    refine ⟨d.pieces, rfl, ?_, fun i piece hpiece hskeleton => ?_⟩
    · rw [Draft.pieces, List.length_map, List.length_zip, Array.length_toList, Array.length_toList,
        hspares.size, hstream]
      exact Nat.min_self _
    · obtain ⟨p, hp, rfl⟩ := Draft.getElem?_pieces hpiece
      obtain ⟨hbefore, hown, hafter⟩ := hspares.own i p hp hskeleton
      have hkept : p.apply (d.stream.text i) = (Stream.ofLexemes ls).text i ++ p.after := by
        rw [Patch.apply, hbefore, hown, hstream, String.empty_append]
        rfl
      rw [hkept]
      rcases hafter with hafter | ⟨rfl, hopen⟩
      · exact .inl (by rw [hafter, String.append_empty])
      · exact .inr ⟨rfl, hopen, p.after, rfl⟩

/-- A call on the block and the header: both are mended, and the markup behind them is kept. -/
theorem fixes_spare_markup_header :
    let source := "<?php echo $block->escapeUrl(1) ?><b>"
    let s := (Lexed.ofSource source).stream
    let settings := Settings.default fun _ => none
    tokenize source = .ok s ∧
    (s.audit settings.rules settings.analysis).changesets =
      [⟨[.replace 3 "$escaper"]⟩, ⟨[.insertAfter 0 escaperDeclaration]⟩] ∧
    s.kind? 11 = some .inlineHtml ∧ s.text 11 = "<b>" ∧
    ∃ checked, checkSource settings source = .ok checked ∧ ∀ text, checked.fixed = some text →
      ∃ pieces : List String, text = String.join pieces ∧ pieces.length = 12 ∧
        ∀ piece, pieces[11]? = some piece → piece = "<b>" := by
  intro source s settings
  have hs : tokenize source = .ok s := tokenize_of_fault_eq_none (by decide +kernel)
  have hsize : s.size = 12 := by decide +kernel
  have hkind : s.kind? 11 = some .inlineHtml := by decide +kernel
  have htext : s.text 11 = "<b>" := by decide +kernel
  have hsets : (s.audit settings.rules settings.analysis).changesets =
      [⟨[.replace 3 "$escaper"]⟩, ⟨[.insertAfter 0 escaperDeclaration]⟩] := by decide +kernel
  obtain ⟨_, _, _, checked, hchecked, hfixed⟩ := fixes_spare_markup settings hs
  refine ⟨hs, hsets, hkind, htext, checked, hchecked, fun text hsome => ?_⟩
  obtain ⟨pieces, hjoin, hlength, hkeep⟩ := hfixed text hsome
  refine ⟨pieces, hjoin, hlength.trans hsize, fun piece hpiece => ?_⟩
  rcases hkeep 11 piece hpiece (by decide +kernel) with hown | ⟨hzero, _⟩
  · exact hown.trans htext
  · cases hzero

end EscapeAudit
