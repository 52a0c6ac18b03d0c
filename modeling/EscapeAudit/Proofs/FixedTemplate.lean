import EscapeAudit.Proofs.Anchors
import EscapeAudit.Proofs.Skeleton
import EscapeAudit.Proofs.Statements
import Mathlib.Data.List.Pairwise

/-!
# Fixed templates

The fixes for output put calls around leaves and marks before tokens.  In a template whose
statements stand apart and have their parentheses matched, the lexemes of the fixed template are
those of the template, each replaced by one chunk (`reads_fusedChunk`).  The chunks leave the
statements where they are (`follows_fusedChunk`).

What a statement without a mark holds is mended (`mended_content`), so it is split as before, each
leaf that needed escaping is a call of the escaper, and every other leaf is judged as it was
(`sameTree_statement`).  Nothing is left to report about it (`outputFindings_fixed`).
-/

namespace EscapeAudit

open Lexer

namespace Stream

/-! ## Where a fix for output comes from -/

theorem exempt_or_outputFixes (s : Stream) (e : Nat) :
    s.Exempt e ∨ ¬ s.Exempt e ∧
      s.outputFixes e = s.leafFixes e true (s.statementWalk e).leaves := by
  unfold outputFixes Exempt
  cases s.gate .standard e with
  | suppressed comment => exact .inl ⟨comment, rfl⟩
  | absent => exact .inr ⟨by simp, rfl⟩
  | disallowed => exact .inr ⟨by simp, rfl⟩

/-- A leaf that needs escaping begins with a token that statements and comments do not hang on. -/
theorem isLoose_of_judge {s : Stream} {rules : RuleSet} {l : Leaf} {anchor : Nat}
    (h : s.judge rules l = .unescaped anchor) :
    ∃ k, s.kind? l.first = some k ∧ k.isLoose = true := by
  obtain ⟨k, hk, hcategory⟩ := category_of_judge h
  refine ⟨k, hk, ?_⟩
  revert hcategory
  cases k <;> simp [Kind.category] <;> rfl

/-- A fix is a call around a leaf, a mark before a leaf, or a mark before an `echo`. -/
inductive FixFor (s : Stream) (entry : Nat) (l : Leaf) : Fix → Prop where
  /-- A call around the leaf. -/
  | wrap (f : EscapeFunction) : FixFor s entry l (.wrap l.first l.last f)
  /-- A mark before the leaf. -/
  | leaf : s.kind? entry ≠ some .echo → FixFor s entry l (.mark l.first)
  /-- A mark before the keyword. -/
  | keyword : s.kind? entry = some .echo → FixFor s entry l (.mark entry)

theorem fixFor_of_fix? {s : Stream} {entry : Nat} {l : Leaf} {anchor : Nat} {f : Fix}
    (h : (s.decide .standard entry l.first l.last anchor).fix? = some f) : s.FixFor entry l f := by
  unfold Decision.fix? at h
  split at h
  · cases h
  · obtain rfl := Option.some.inj h
    simp only [decide]
    split
    · rename_i hecho
      exact .keyword (by simpa using hecho)
    · rename_i hecho
      exact .leaf (by simpa using hecho)
  · obtain rfl := Option.some.inj h
    exact .wrap _

theorem exists_fixFor {s : Stream} {f : Fix} (h : f ∈ s.allOutputFixes) :
    ∃ e ∈ s.entryPoints, ∃ l ∈ (s.statementWalk e).leaves, ∃ anchor,
      s.judge .standard l = .unescaped anchor ∧ s.FixFor e l f := by
  obtain ⟨e, he, hf⟩ := List.mem_flatMap.mp h
  obtain ⟨l, hl, anchor, hjudge, hfix⟩ := mem_outputFixes hf
  exact ⟨e, he, l, hl, anchor, hjudge, fixFor_of_fix? hfix⟩

/-- A fix that is about a token inside a statement is a fix of this statement. -/
theorem EntriesApart.mem_outputFixes {s : Stream} (h : s.EntriesApart) {e i : Nat}
    (he : e ∈ s.entryPoints) (hlt : e < i) (hend : i < s.statementEnd e) {f : Fix}
    (hf : f ∈ s.allOutputFixes) (hi : f.first = i ∨ f.last = i) : f ∈ s.outputFixes e := by
  obtain ⟨e', he', hf'⟩ := List.mem_flatMap.mp hf
  obtain ⟨_, hfirst, hle, hlast⟩ := span_of_mem_outputFixes hf'
  have hbehind := h e he e' he'
  have hbefore := h e' he' e he
  simp only [statementRange] at hbehind hbefore
  obtain rfl : e' = e := by omega
  exact hf'

theorem EntriesApart.fixFor_inside {s : Stream} (h : s.EntriesApart) {e i : Nat}
    (he : e ∈ s.entryPoints) (hlt : e < i) (hend : i < s.statementEnd e) {f : Fix}
    (hf : f ∈ s.allOutputFixes) (hi : f.first = i ∨ f.last = i) :
    ∃ l, s.Under (s.statementRange e) l ∧
      ((∃ g, f = .wrap l.first l.last g) ∨ f = .mark l.first) := by
  obtain ⟨l, hl, anchor, _, hfix⟩ := Stream.mem_outputFixes (h.mem_outputFixes he hlt hend hf hi)
  refine ⟨l, under_statementRange hl, ?_⟩
  have hfor := fixFor_of_fix? hfix
  cases hfor with
  | wrap g => exact .inl ⟨g, rfl⟩
  | leaf => exact .inr rfl
  | keyword =>
    simp only [Fix.first, Fix.last, or_self] at hi
    omega

end Stream

/-! ## Chunks of a fixed template -/

/-- What a token is replaced by, as it is read. -/
inductive FusedChunk (fixes : List Fix) (i : Nat) (l : Lexeme) : List Lexeme → Prop where
  /-- The token stays. -/
  | keep : (∀ f ∈ fixes, f.first ≠ i ∧ f.last ≠ i) → FusedChunk fixes i l [l]
  /-- A call is put around the token. -/
  | whole {f : EscapeFunction} {w : List Lexeme} : .wrap i i f ∈ fixes → Stream.Wrapped f [l] w →
    FusedChunk fixes i l w
  /-- A call begins before the token. -/
  | first {last : Nat} {f : EscapeFunction} : .wrap i last f ∈ fixes → i < last →
    FusedChunk fixes i l (escaperCall f ++ [l])
  /-- A call ends behind the token. -/
  | last {first : Nat} {f : EscapeFunction} : .wrap first i f ∈ fixes → first < i →
    FusedChunk fixes i l [l, closing]
  /-- A mark is put before the token. -/
  | mark : .mark i ∈ fixes → FusedChunk fixes i l (exemptionMark ++ [l])

theorem wrapped_fuseCall (f : EscapeFunction) (l : Lexeme) :
    Stream.Wrapped f [l] (fuseCall (escaperCall f ++ [l, closing])) := by
  simp only [escaperCall, List.cons_append, List.nil_append, fuseCall]
  split
  · exact .cast
  · exact .call

namespace Tidy

variable {fixes : List Fix}

theorem fusedChunk (h : Tidy fixes) (i : Nat) (l : Lexeme) :
    FusedChunk fixes i l (fusedChunk fixes i l) := by
  unfold EscapeAudit.fusedChunk
  have hchunk := h.chunk i l
  generalize chunkOf fixes i l = c at hchunk
  cases hchunk with
  | keep hnone => exact .keep hnone
  | whole hmem => exact .whole hmem (wrapped_fuseCall _ l)
  | first hmem hlt => exact .first hmem hlt
  | last hmem hlt => exact .last hmem hlt
  | mark hmem => exact .mark hmem

/-- A call around tokens, as it is read. -/
theorem weave_call (h : Tidy fixes) {first : Nat} {f : EscapeFunction} {core : List Lexeme}
    (hmem : .wrap first (first + core.length - 1) f ∈ fixes) (hpos : 0 < core.length) :
    Stream.Wrapped f core (weave (EscapeAudit.fusedChunk fixes) first core) := by
  cases core with
  | nil => cases hpos
  | cons l rest =>
    rcases List.eq_nil_or_concat' rest with rfl | ⟨mid, m, rfl⟩
    · have hchunk := h.chunkOf_of_mem hmem (Nat.le_refl first) (Nat.le_refl _) l
      simp only [Fix.lexemesBefore, Fix.lexemesAfter, List.length_singleton, Nat.add_sub_cancel,
        if_true] at hchunk
      rw [weave, weave, List.append_nil, EscapeAudit.fusedChunk, hchunk]
      exact wrapped_fuseCall f l
    · have hlast : first + (l :: (mid ++ [m])).length - 1 = first + 1 + mid.length := by
        simp
        omega
      rw [hlast] at hmem
      have hinside : ∀ i x, first ≤ i → i ≤ first + 1 + mid.length →
          EscapeAudit.fusedChunk fixes i x =
            fuseCall ((if first = i then escaperCall f else []) ++
              x :: (if first + 1 + mid.length = i then [closing] else [])) := by
        intro i x hi hle
        rw [EscapeAudit.fusedChunk, h.chunkOf_of_mem hmem hi hle]
        rfl
      have hmid : weave (EscapeAudit.fusedChunk fixes) (first + 1) mid = mid := by
        refine Stream.weave_eq_self fun i hi hlt x => ?_
        rw [hinside i x (by omega) (by omega), if_neg (by omega), if_neg (by omega)]
        rfl
      have hweave : weave (EscapeAudit.fusedChunk fixes) first (l :: (mid ++ [m])) =
          Stream.accessor f ++ opening :: ((l :: (mid ++ [m])) ++ [closing]) := by
        rw [weave, weave_append, hmid, weave, weave, hinside first l (Nat.le_refl _) (by omega),
          hinside (first + 1 + mid.length) m (by omega) (Nat.le_refl _), if_pos rfl,
          if_neg (by omega), if_neg (by omega), if_pos rfl]
        simp [fuseCall, escaperCall, Stream.accessor]
      rw [hweave]
      exact .call

end Tidy

namespace Stream

/-! ## Statements of a fixed template -/

/-- The calls of a list of fixes, by the leaves that they are around. -/
def Wraps (fixes : List Fix) (l : Leaf) (f : EscapeFunction) : Prop :=
  .wrap l.first l.last f ∈ fixes

theorem weavesCalls_fusedChunk {fixes : List Fix} (h : Tidy fixes) (s : Stream) :
    s.WeavesCalls (Wraps fixes) (fusedChunk fixes) := by
  intro b t core u f hf _ hleaf
  exact h.weave_call hf hleaf.solid.length_pos

theorem loose_accessor (f : EscapeFunction) : ∀ m ∈ accessor f, Loose m := by
  intro m hm
  simp only [accessor, List.mem_cons, List.not_mem_nil, or_false] at hm
  rcases hm with rfl | rfl | rfl <;> exact .inl rfl

theorem loose_escaperCall (f : EscapeFunction) : ∀ m ∈ escaperCall f, Loose m := by
  intro m hm
  simp only [escaperCall, List.mem_cons, List.not_mem_nil, or_false] at hm
  rcases hm with rfl | rfl | rfl | rfl <;> exact .inl rfl

theorem loose_exemptionMark : ∀ m ∈ exemptionMark, Loose m := by
  intro m hm
  simp only [exemptionMark, List.mem_cons, List.not_mem_nil, or_false] at hm
  rcases hm with rfl | rfl
  · exact .inr rfl
  · exact .inl rfl

/-- What is put in is of no account to statements. -/
theorem eq_or_loose_of_mem_fusedChunk {fixes : List Fix} (htidy : Tidy fixes) {i : Nat}
    {l m : Lexeme} (hm : m ∈ fusedChunk fixes i l) : m = l ∨ Loose m := by
  have hclosing : Loose closing := .inl rfl
  have hchunk := htidy.fusedChunk i l
  generalize fusedChunk fixes i l = c at hchunk hm
  cases hchunk with
  | keep => exact .inl (List.mem_singleton.mp hm)
  | whole _ hw =>
    cases hw with
    | call =>
      rcases List.mem_append.mp hm with hm | hm
      · exact .inr (loose_accessor _ m hm)
      · simp only [List.cons_append, List.nil_append, List.mem_cons, List.not_mem_nil,
          or_false] at hm
        rcases hm with rfl | rfl | rfl
        · exact .inr (.inl rfl)
        · exact .inl rfl
        · exact .inr hclosing
    | cast =>
      rcases List.mem_append.mp hm with hm | hm
      · exact .inr (loose_accessor _ m hm)
      · rw [List.mem_singleton.mp hm]
        exact .inr (.inl rfl)
  | first =>
    rcases List.mem_append.mp hm with hm | hm
    · exact .inr (loose_escaperCall _ m hm)
    · exact .inl (List.mem_singleton.mp hm)
  | last =>
    rcases List.mem_cons.mp hm with rfl | hm
    · exact .inl rfl
    · rw [List.mem_singleton.mp hm]
      exact .inr hclosing
  | mark =>
    rcases List.mem_append.mp hm with hm | hm
    · exact .inr (loose_exemptionMark m hm)
    · exact .inl (List.mem_singleton.mp hm)

theorem EntriesApart.wrap_inside {s : Stream} (h : s.EntriesApart) {first last : Nat}
    {f : EscapeFunction} (hf : .wrap first last f ∈ s.allOutputFixes) {e : Nat}
    (he : e ∈ s.entryPoints) : e < first ∨ last < e := by
  obtain ⟨e', he', l, hl, _, _, hfix⟩ := exists_fixFor hf
  obtain ⟨hfirst, hle, hlast⟩ := (s.leaves_statementWalk e').2 l hl
  have hapart := h e' he' e he
  simp only [statementRange] at hapart
  cases hfix with
  | wrap => omega

/-- A call begins before a token that statements and comments do not hang on. -/
theorem isLoose_of_wrap {ls : List Lexeme} {i last : Nat} {f : EscapeFunction}
    (hf : .wrap i last f ∈ (ofLexemes ls).allOutputFixes) {l : Lexeme} (hl : ls[i]? = some l) :
    l.kind.isLoose = true := by
  obtain ⟨_, _, leaf, _, _, hjudge, hfix⟩ := exists_fixFor hf
  cases hfix with
  | wrap =>
    obtain ⟨k, hk, hloose⟩ := isLoose_of_judge hjudge
    rw [kind?_ofLexemes, hl] at hk
    rwa [Option.some.inj hk]

/-- A mark stands before such a token or before an `echo`. -/
theorem isLoose_of_mark {ls : List Lexeme} {i : Nat}
    (hf : .mark i ∈ (ofLexemes ls).allOutputFixes) {l : Lexeme} (hl : ls[i]? = some l) :
    l.kind.isLoose = true ∨ l.kind = .echo := by
  obtain ⟨_, _, leaf, _, _, hjudge, hfix⟩ := exists_fixFor hf
  cases hfix with
  | leaf =>
    obtain ⟨k, hk, hloose⟩ := isLoose_of_judge hjudge
    rw [kind?_ofLexemes, hl] at hk
    exact .inl (by rwa [Option.some.inj hk])
  | keyword hecho =>
    rw [kind?_ofLexemes, hl] at hecho
    exact .inr (Option.some.inj hecho)

/-- The fixes for output leave the statements where they are. -/
theorem follows_fusedChunk {ls : List Lexeme} (h : (ofLexemes ls).EntriesApart) :
    Follows ls (fusedChunk (ofLexemes ls).allOutputFixes) := by
  have htidy := tidy_allOutputFixes h
  refine ⟨fun i l hl hloose m hm => ?_, fun i l hl hentry => ?_, fun i l hl hloose hentry => ?_⟩
  · rcases eq_or_loose_of_mem_fusedChunk htidy hm with rfl | hm
    · exact .inl hloose
    · exact hm
  · have hmem : i ∈ (ofLexemes ls).entryPoints := by
      refine List.mem_filter.mpr ⟨?_, holds_ofLexemes.mpr ⟨l, hl, hentry⟩⟩
      rw [List.mem_range, size_ofLexemes]
      exact (List.getElem?_eq_some_iff.mp hl).1
    have hchunk := htidy.fusedChunk i l
    generalize fusedChunk (ofLexemes ls).allOutputFixes i l = c at hchunk
    cases hchunk with
    | keep => exact ⟨[], rfl, by simp⟩
    | whole hf => exact absurd (h.wrap_inside hf hmem) (by omega)
    | first hf => exact absurd (h.wrap_inside hf hmem) (by omega)
    | last hf => exact absurd (h.wrap_inside hf hmem) (by omega)
    | mark => exact ⟨exemptionMark, rfl, loose_exemptionMark⟩
  · have hchunk := htidy.fusedChunk i l
    generalize fusedChunk (ofLexemes ls).allOutputFixes i l = c at hchunk
    cases hchunk with
    | keep => exact ⟨[], rfl, by simp⟩
    | whole hf => rw [isLoose_of_wrap hf hl] at hloose; cases hloose
    | first hf => rw [isLoose_of_wrap hf hl] at hloose; cases hloose
    | last => exact ⟨[closing], rfl, by simp; exact .inl rfl⟩
    | mark hf =>
      rcases isLoose_of_mark hf hl with hl | hl
      · rw [hl] at hloose
        cases hloose
      · rw [hl] at hentry
        cases hentry

/-! ## What a statement holds -/

/-- What a statement holds is mended, unless a mark stands in it. -/
theorem mended_content {ls before content after : List Lexeme} {l : Lexeme}
    (hapart : (ofLexemes ls).EntriesApart) (h : IsStatement ls before l content after)
    (hb : Balanced content)
    (hmark : ∀ i, before.length < i → i < before.length + 1 + content.length →
      .mark i ∉ (ofLexemes ls).allOutputFixes) :
    Mended (Wraps (ofLexemes ls).allOutputFixes) false (before.length + 1) content
      (weave (fusedChunk (ofLexemes ls).allOutputFixes) (before.length + 1) content) := by
  have htidy := tidy_allOutputFixes hapart
  refine (mended_weave (weavesCalls_fusedChunk htidy (ofLexemes ls)) h.lies hb).whole ?_
  intro i hi hlt hcovered x
  -- A call that touches the token is around a leaf of the statement.
  have hwrap : ∀ first last f, .wrap first last f ∈ (ofLexemes ls).allOutputFixes →
      ¬ (first = i ∨ last = i) := by
    intro first last f hf htouch
    obtain ⟨leaf, hunder, hfix⟩ := hapart.fixFor_inside h.mem_entryPoints hi
      (by rw [h.statementEnd_eq]; exact hlt) hf htouch
    rcases hfix with ⟨g, hg⟩ | hg
    · cases hg
      have hle := hunder.first_le
      rw [h.statementRange_eq] at hunder
      exact hcovered _ (List.mem_singleton_self _) ⟨leaf, f, hunder, hf, by omega, by omega⟩
    · cases hg
  have hchunk := htidy.fusedChunk i x
  generalize fusedChunk (ofLexemes ls).allOutputFixes i x = c at hchunk
  cases hchunk with
  | keep => rfl
  | whole hf => exact absurd (.inl rfl) (hwrap _ _ _ hf)
  | first hf => exact absurd (.inl rfl) (hwrap _ _ _ hf)
  | last hf => exact absurd (.inr rfl) (hwrap _ _ _ hf)
  | mark hf => exact absurd hf (hmark i hi hlt)

/-- The calls are put around balanced tokens. -/
theorem enclosing_allOutputFixes {ls : List Lexeme}
    (hmatched : ∀ e ∈ (ofLexemes ls).entryPoints,
      (ofLexemes ls).Matched ((ofLexemes ls).statementRange e)) :
    ∀ f ∈ (ofLexemes ls).allOutputFixes, f.Enclosing ls := by
  intro f hf
  obtain ⟨e, he, leaf, hleaf, _, _, hfix⟩ := exists_fixFor hf
  obtain ⟨before, l, content, after, hst, rfl⟩ := exists_isStatement he
  cases hfix with
  | wrap g =>
    obtain ⟨b, t, core, u, rfl, hlies, hisLeaf⟩ := (under_statementRange hleaf).exists_isLeaf
      hst.statementRange_eq hst.lies (hst.balanced (hmatched _ he))
    obtain ⟨front, behind, heq, rfl⟩ := hlies
    have hls : ls = front ++ ((t ++ (core ++ u)) ++ behind) := by
      rw [← lexemes_ofLexemes ls, heq, lexemes_ofLexemes]
    have hpos := hisLeaf.solid.length_pos
    refine ⟨front ++ t, core, u ++ behind, by rw [hls]; simp, ?_, ?_, hisLeaf.balanced,
      hisLeaf.solid⟩
    · simp [leafAt]
    · simp only [leafAt]
      omega
  | leaf => trivial
  | keyword => trivial

/-- The lexemes of a fixed template. -/
theorem reads_fusedChunk {cs : List Char} {ls : List Lexeme} {t : State}
    (hreads : Reads .initial cs ls t []) (hapart : (ofLexemes ls).EntriesApart)
    (hmatched : ∀ e ∈ (ofLexemes ls).entryPoints,
      (ofLexemes ls).Matched ((ofLexemes ls).statementRange e))
    (hsound : ∀ f ∈ (ofLexemes ls).allOutputFixes, f.Sound ls) :
    ∃ u, Reads .initial (chars (weave (chunkOf (ofLexemes ls).allOutputFixes) 0 ls))
      (weave (fusedChunk (ofLexemes ls).allOutputFixes) 0 ls) u [] := by
  obtain ⟨ms, u, hms, hfuses⟩ := reads_weave hreads hsound
  have heq := (tidy_allOutputFixes hapart).fuses_weave (enclosing_allOutputFixes hmatched)
    (hreads.unfused trivial) (show ls = [] ++ ls from rfl) hfuses
  rw [heq] at hms
  exact ⟨u, hms⟩

/-! ## Leaves of a fixed template -/

theorem wrap_mem_leafFixes {s : Stream} {entry : Nat} {marker : Bool} {leaves : List Leaf}
    {l : Leaf} {anchor : Nat} {f : EscapeFunction} (hl : l ∈ leaves)
    (hjudge : s.judge .standard l = .unescaped anchor)
    (hremedy : s.remedyFor .standard l.first (s.text anchor) = .wrap f) :
    .wrap l.first l.last f ∈ s.leafFixes entry marker leaves := by
  induction leaves generalizing marker with
  | nil => cases hl
  | cons l' rest ih =>
    rw [leafFixes]
    rcases List.mem_cons.mp hl with rfl | hl
    · simp [hjudge, decide, hremedy, Decision.fix?]
    · split
      · exact List.mem_append.mpr (.inr (ih hl))
      · exact ih hl

theorem not_exempt_of_mem_outputFixes {s : Stream} {e : Nat} {f : Fix}
    (h : f ∈ s.outputFixes e) : ¬ s.Exempt e := by
  rintro ⟨comment, hgate⟩
  rw [outputFixes, hgate] at h
  cases h

/-- A call around a leaf is there because the leaf needs escaping. -/
theorem EntriesApart.judge_of_wraps {s : Stream} (h : s.EntriesApart) {e : Nat}
    (he : e ∈ s.entryPoints) {l : Leaf} (hl : l ∈ (s.statementWalk e).leaves)
    {f : EscapeFunction} (hf : Wraps s.allOutputFixes l f) :
    ¬ s.Exempt e ∧ ∃ anchor, s.judge .standard l = .unescaped anchor := by
  obtain ⟨hapart, hleaves⟩ := s.leaves_statementWalk e
  obtain ⟨hfirst, hle, hlast⟩ := hleaves l hl
  have hown : .wrap l.first l.last f ∈ s.outputFixes e :=
    h.mem_outputFixes he hfirst (by omega) hf (.inl rfl)
  obtain ⟨l', hl', anchor, hjudge, hfix⟩ := Stream.mem_outputFixes hown
  refine ⟨not_exempt_of_mem_outputFixes hown, anchor, ?_⟩
  have hsame : l.first = l'.first := by
    generalize hg : Fix.wrap l.first l.last f = g at hfix
    cases fixFor_of_fix? hfix with
    | wrap => exact (Fix.wrap.inj hg).1
    | leaf => cases hg
    | keyword => cases hg
  by_cases heq : l = l'
  · rw [heq]
    exact hjudge
  · have hle' := (hleaves l' hl').2.1
    have := hapart.forall hl hl' heq
    unfold Leaf.Apart at this
    omega

/-! ## The second run -/

/-- A statement without a mark is split as before, and its leaves are settled. -/
theorem sameTree_statement {ls : List Lexeme} {chunk : Nat → Lexeme → List Lexeme}
    (hapart : (ofLexemes ls).EntriesApart) (hfollows : Follows ls chunk) {e e' : Nat}
    (hmatched : (ofLexemes ls).Matched ((ofLexemes ls).statementRange e))
    (hagree : ∀ i, e < i → chunk i = fusedChunk (ofLexemes ls).allOutputFixes i)
    (hmoves : Follows.Moves ls chunk e e')
    (hmark : ∀ i, e < i → i < (ofLexemes ls).statementEnd e →
      .mark i ∉ (ofLexemes ls).allOutputFixes) :
    SameTree (ofLexemes ls) (ofLexemes (weave chunk 0 ls))
      (Mended.Settles (ofLexemes ls) (ofLexemes (weave chunk 0 ls))
        (Wraps (ofLexemes ls).allOutputFixes))
      ((ofLexemes ls).statementRange e) ((ofLexemes (weave chunk 0 ls)).statementRange e') := by
  obtain ⟨before, l, content, after, pre, hst, rfl, hpre, _, rfl⟩ := hmoves.isStatement
  have hst' := hfollows.isStatement hst hpre
  rw [hst.statementEnd_eq] at hmark
  have hmended := mended_content hapart hst (hst.balanced hmatched) hmark
  rw [← weave_congr (fun i hi => hagree i hi) content] at hmended
  rw [hst.statementRange_eq, hst'.statementRange_eq]
  exact (hmended.tree hst.lies hst'.lies).1 rfl

/-- Nothing is reported about the output of a statement that is exempt or has no leaf that needs
escaping. -/
theorem outputFindings_eq_nil {s : Stream} {e : Nat}
    (h : s.Exempt e ∨ ∀ l ∈ (s.statementWalk e).leaves, ∀ i, s.judge .standard l ≠ .unescaped i) :
    s.outputFindings .standard e = [] := by
  rcases h with ⟨comment, hgate⟩ | h
  · rw [outputFindings, outputSteps, hgate]
    rfl
  · rcases (s.outputFindings_cases .standard e).2 with hnone | hanchors
    · exact List.map_eq_nil_iff.mp hnone
    · have hnil : (s.statementWalk e).leaves.filterMap (s.anchor? .standard) = [] :=
        List.filterMap_eq_nil_iff.mpr fun l hl => by
          cases hanchor : s.anchor? .standard l with
          | none => rfl
          | some i => exact absurd (anchor?_eq_some_iff.mp hanchor) (h l hl i)
      rw [hnil] at hanchors
      exact List.map_eq_nil_iff.mp hanchors

/-- Whether a statement that is not exempt asks for a mark. -/
def AsksForMark (s : Stream) (e : Nat) : Prop :=
  ¬ s.Exempt e ∧ ∃ l ∈ (s.statementWalk e).leaves, ∃ anchor,
    s.judge .standard l = .unescaped anchor ∧
      (s.decide .standard e l.first l.last anchor).remedy = .mark

theorem asksForMark_iff {s : Stream} {e : Nat} :
    s.AsksForMark e ↔ ¬ s.Exempt e ∧ ∃ l ∈ (s.statementWalk e).leaves,
      (s.anchor? .standard l).any fun anchor =>
        (s.decide .standard e l.first l.last anchor).remedy == .mark := by
  simp only [AsksForMark, Option.any_eq_true, anchor?_eq_some_iff, beq_iff_eq]

instance (s : Stream) (e : Nat) : Decidable (s.AsksForMark e) :=
  decidable_of_iff _ asksForMark_iff.symm

/-- A statement that asks for no mark has all its leaves that need escaping wrapped. -/
theorem exists_wraps {s : Stream} {e : Nat} (he : e ∈ s.entryPoints) (hexempt : ¬ s.Exempt e)
    (hmark : ¬ s.AsksForMark e) {l : Leaf} (hl : l ∈ (s.statementWalk e).leaves) {anchor : Nat}
    (hjudge : s.judge .standard l = .unescaped anchor) : ∃ f, Wraps s.allOutputFixes l f := by
  rcases s.remedyFor_cases .standard l.first (s.text anchor) with hremedy | ⟨f, hremedy⟩
  · exact absurd ⟨hexempt, l, hl, anchor, hjudge, (s.remedy_decide ..).trans hremedy⟩ hmark
  · refine ⟨f, List.mem_flatMap.mpr ⟨e, he, ?_⟩⟩
    rcases s.exempt_or_outputFixes e with h | ⟨_, hfixes⟩
    · exact absurd h hexempt
    · rw [hfixes]
      exact wrap_mem_leafFixes hl hjudge hremedy

/-- A mark inside a statement is there because the statement asks for it. -/
theorem EntriesApart.asksForMark {s : Stream} (h : s.EntriesApart) {e i : Nat}
    (he : e ∈ s.entryPoints) (hlt : e < i) (hend : i < s.statementEnd e)
    (hf : .mark i ∈ s.allOutputFixes) : s.AsksForMark e := by
  have hown := h.mem_outputFixes he hlt hend hf (.inl rfl)
  obtain ⟨l, hl, anchor, hjudge, hfix⟩ := Stream.mem_outputFixes hown
  refine ⟨not_exempt_of_mem_outputFixes hown, l, hl, anchor, hjudge, ?_⟩
  unfold Decision.fix? at hfix
  split at hfix
  · cases hfix
  · rename_i hremedy
    exact hremedy
  · cases hfix

/-- Behind the fixes there is nothing to report about a statement that was exempt or asked for no
mark. -/
theorem outputFindings_fixed {ls : List Lexeme} {chunk : Nat → Lexeme → List Lexeme}
    (hapart : (ofLexemes ls).EntriesApart) (hfollows : Follows ls chunk) {e e' : Nat}
    (he : e ∈ (ofLexemes ls).entryPoints)
    (hmatched : (ofLexemes ls).Matched ((ofLexemes ls).statementRange e))
    (hagree : ∀ i, e < i → chunk i = fusedChunk (ofLexemes ls).allOutputFixes i)
    (hmoves : Follows.Moves ls chunk e e') (hmark : ¬ (ofLexemes ls).AsksForMark e) :
    (ofLexemes (weave chunk 0 ls)).outputFindings .standard e' = [] := by
  by_cases hexempt : (ofLexemes ls).Exempt e
  · obtain ⟨before, l, after, pre, hls, rfl, _, hpre, hloose, rfl⟩ := hmoves
    exact outputFindings_eq_nil (.inl (hfollows.exempt hls hpre hloose hexempt))
  · have htree := sameTree_statement hapart hfollows hmatched hagree hmoves fun i hlt hend hf =>
      hmark (hapart.asksForMark he hlt hend hf)
    refine outputFindings_eq_nil (.inr fun l' hl' i hjudge' => ?_)
    obtain ⟨l, hl, hwraps, hkept⟩ := htree.exists_leaf hl'
    by_cases hwrap : ∃ f, Wraps (ofLexemes ls).allOutputFixes l f
    · obtain ⟨f, hf⟩ := hwrap
      rw [hwraps f hf] at hjudge'
      cases hjudge'
    · have hagrees := hkept fun f hf => hwrap ⟨f, hf⟩
      rw [hjudge'] at hagrees
      cases hjudge : (ofLexemes ls).judge .standard l with
      | unescaped anchor => exact hwrap (exists_wraps he hexempt hmark hl hjudge)
      | safe => rw [hjudge] at hagrees; cases hagrees
      | skipped => rw [hjudge] at hagrees; cases hagrees

end Stream

end EscapeAudit
