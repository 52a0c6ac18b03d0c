import EscapeAudit.Proofs.FixedTemplate

/-!
# Templates that differ in receivers

The rule for output reads the kinds of tokens, how parentheses pair, and the texts of names, comments
and markup.  So it does not tell `$block` and `$escaper` apart: two streams that differ only there
are split into the same leaves, judged in the same way and fixed in the same places
(`Alike.allOutputFixes`).
-/

namespace EscapeAudit

open Lexer

namespace Stream

/-- Two streams where `$escaper` may stand in the second one for `$block` in the first one. -/
structure Alike (s s' : Stream) : Prop where
  size : s'.size = s.size
  kind : s'.kind? = s.kind?
  partner : s'.partner? = s.partner?
  text : ∀ i, s'.text i = s.text i ∨
    s.kind? i = some .variable ∧ s.text i = blockAccessor ∧ s'.text i = "$escaper"

/-! ## Reading a stream token by token -/

theorem kind?_of_commentNear? {s : Stream} {e comment : Nat} (h : s.commentNear? e = some comment) :
    s.kind? comment = some .comment := by
  have hholds : s.holds (· == .comment) comment = true := by
    unfold commentNear? at h
    split at h
    · exact (findPrevious_eq_some_iff.mp h).2.2.1
    · exact (findNext_eq_some_iff.mp h).2.2.1
    · cases h
  obtain ⟨k, hk, htest⟩ := holds_iff.mp hholds
  rw [hk, beq_iff_eq.mp htest]

theorem markupBefore_succ (s : Stream) {n : Nat} (hn : n < s.size) :
    s.markupBefore (n + 1) =
      if s.kind? n = some .inlineHtml then s.markupBefore n ++ s.text n else s.markupBefore n := by
  have hmin : min (n + 1) s.size = n + 1 := by omega
  have hmin' : min n s.size = n := by omega
  have htoken : s.tokens[n]? = some s.tokens[n] := Array.getElem?_eq_getElem hn
  rw [markupBefore, markupBefore, hmin, hmin', Array.foldl_eq_foldl_extract,
    Array.extract_succ_right (Nat.succ_pos n) hn, Array.foldl_push,
    ← Array.foldl_eq_foldl_extract, kind?, text, htoken]
  simp

theorem markupBefore_min (s : Stream) (n : Nat) :
    s.markupBefore n = s.markupBefore (min n s.size) := by
  rw [markupBefore, markupBefore, Nat.min_assoc, Nat.min_self]

namespace Alike

variable {s s' : Stream}

/-! ## Statements and leaves -/

theorem holds (h : Alike s s') : s'.holds = s.holds := by
  funext test i
  rw [Bool.eq_iff_iff, holds_iff, holds_iff, h.kind]

theorem text_eq (h : Alike s s') {i : Nat} {k : Kind} (hk : s.kind? i = some k)
    (hvariable : k ≠ .variable) : s'.text i = s.text i := by
  rcases h.text i with htext | ⟨hkind, _⟩
  · exact htext
  · exact absurd (Option.some.inj (hk.symm.trans hkind)) hvariable

theorem findNext (h : Alike s s') : s'.findNext = s.findNext := by
  funext test start stop
  rw [Stream.findNext, Stream.findNext, h.holds, h.size]

theorem findPrevious (h : Alike s s') : s'.findPrevious = s.findPrevious := by
  funext test start stop
  rw [Stream.findPrevious, Stream.findPrevious, h.holds, h.size]

theorem entryPoints (h : Alike s s') : s'.entryPoints = s.entryPoints := by
  rw [Stream.entryPoints, Stream.entryPoints, h.holds, h.size]

theorem statementEnd (h : Alike s s') : s'.statementEnd = s.statementEnd := by
  funext entry
  rw [Stream.statementEnd, Stream.statementEnd, h.findNext, h.size]

theorem statementRange (h : Alike s s') : s'.statementRange = s.statementRange := by
  funext entry
  rw [Stream.statementRange, Stream.statementRange, h.statementEnd]

theorem inScope (h : Alike s s') : s'.inScope = s.inScope := by
  have hskip : s'.skip = s.skip := by
    funext i
    rw [skip, skip, h.kind, h.partner]
  have hfrom : ∀ test stop i found,
      s'.inScopeFrom test stop i found = s.inScopeFrom test stop i found := by
    intro test stop i found
    fun_induction Stream.inScopeFrom s test stop i found with
    | case1 i found hlt hkind =>
      rw [inScopeFrom, if_pos hlt, h.kind, hkind]
    | case2 i found hlt kind hkind htest ih =>
      rw [inScopeFrom, if_pos hlt, h.kind, hkind]
      simp only [htest, if_true, ih]
    | case3 i found hlt kind hkind htest _ ih =>
      rw [inScopeFrom, if_pos hlt, h.kind, hkind]
      simp only [htest, hskip]
      exact ih
    | case4 i found hlt => rw [inScopeFrom, if_neg hlt]
  funext test r
  rw [Stream.inScope, Stream.inScope, hfrom]

theorem split (h : Alike s s') : s'.split = s.split := by
  have hbounds : s'.bounds? = s.bounds? := by
    funext r
    rw [bounds?, bounds?, h.findNext, h.findPrevious]
  have hpair : s'.isPair = s.isPair := by
    funext first last
    rw [isPair, isPair, h.kind, h.partner]
  have hbranches : s'.branches = s.branches := by
    funext r then_
    rw [branches, branches, firstInScope, firstInScope, h.inScope]
  funext r
  rw [Stream.split, Stream.split, hbounds, hpair, hbranches, lastInScope, lastInScope, h.inScope]

theorem statementWalk (h : Alike s s') : s'.statementWalk = s.statementWalk := by
  have hfrom : ∀ budget rs, s'.walkFrom budget rs = s.walkFrom budget rs := by
    intro budget
    induction budget with
    | zero => intro rs; cases rs <;> rfl
    | succ budget ih =>
      intro rs
      cases rs with
      | nil => rfl
      | cons r rs => rw [walkFrom, walkFrom, h.split, ih]
  funext entry
  rw [statementWalk_eq, statementWalk_eq, hfrom, h.statementRange]

theorem matched (h : Alike s s') : s'.Matched = s.Matched := by
  funext r
  rw [Matched, Matched, h.kind, h.partner]

theorem entriesApart (h : Alike s s') : s'.EntriesApart ↔ s.EntriesApart := by
  rw [EntriesApart, EntriesApart, h.entryPoints, h.statementRange]

/-! ## Verdicts -/

theorem judge (h : Alike s s') (rules : RuleSet) (l : Leaf) : s'.judge rules l = s.judge rules l := by
  have hvariable : s'.judgeVariable rules l = s.judgeVariable rules l := by
    simp only [judgeVariable, lastInScope, h.inScope, h.findNext, h.kind]
    split
    · rfl
    · split
      · rfl
      · rename_i member _
        cases hmember : s.kind? member == some .identifier with
        | false => rfl
        | true => rw [h.text_eq (beq_iff_eq.mp hmember) (by decide)]
  rw [Stream.judge, Stream.judge, firstInScope, firstInScope, h.inScope, h.kind, hvariable]
  cases (s.inScope Kind.isArithmetic l.range)[0]?.isSome with
  | true => rfl
  | false =>
    cases hkind : s.kind? l.first with
    | none => rfl
    | some kind =>
      dsimp only
      cases hcategory : kind.category with
      | call =>
        have hne : kind ≠ .variable := by rintro rfl; cases hcategory
        dsimp only
        rw [judgeCall, judgeCall, h.text_eq hkind hne]
      | _ => rfl

theorem gate (h : Alike s s') (rules : RuleSet) (e : Nat) : s'.gate rules e = s.gate rules e := by
  have hnear : s'.commentNear? e = s.commentNear? e := by
    simp only [commentNear?, h.kind, h.findNext, h.findPrevious, h.size]
  rw [Stream.gate, Stream.gate, hnear]
  cases hcomment : s.commentNear? e with
  | none => rfl
  | some comment =>
    dsimp only
    rw [h.text_eq (kind?_of_commentNear? hcomment) (by decide)]

theorem exempt (h : Alike s s') (e : Nat) : s'.Exempt e ↔ s.Exempt e := by
  rw [Exempt, Exempt, h.gate]

/-! ## Fixes -/

theorem markupBefore (h : Alike s s') : s'.markupBefore = s.markupBefore := by
  have hle : ∀ n ≤ s.size, s'.markupBefore n = s.markupBefore n := by
    intro n hn
    induction n with
    | zero =>
      rw [Stream.markupBefore, Stream.markupBefore, Nat.zero_min, Nat.zero_min,
        Array.foldl_eq_foldl_extract, @Array.foldl_eq_foldl_extract _ _ _ _ s.tokens]
      simp
    | succ n ih =>
      have ih := ih (by omega)
      rw [markupBefore_succ s (by omega), markupBefore_succ s' (by rw [h.size]; omega), h.kind, ih]
      split
      · rename_i hkind
        rw [h.text_eq hkind (by decide)]
      · rfl
  funext n
  rw [markupBefore_min, markupBefore_min s, h.size]
  exact hle _ (Nat.min_le_right _ _)

theorem remedyFor (h : Alike s s') (first named : Nat) :
    s'.remedyFor .standard first (s'.text named) = s.remedyFor .standard first (s.text named) := by
  simp only [Stream.remedyFor, h.markupBefore]
  rcases h.text named with htext | ⟨_, hblock, hescaper⟩
  · rw [htext]
  · rw [hblock, hescaper]
    have hnames : ∀ name ∈ [blockAccessor, "$escaper"],
        Text.contains (Text.lowercase name) "json" = false ∧
          Text.contains (Text.lowercase name) "url" = false := by decide +kernel
    obtain ⟨hjson, hurl⟩ := hnames blockAccessor (by simp)
    obtain ⟨hjson', hurl'⟩ := hnames "$escaper" (by simp)
    rw [hjson, hurl, hjson', hurl']

theorem decide (h : Alike s s') (entry first last named : Nat) :
    s'.decide .standard entry first last named = s.decide .standard entry first last named := by
  rw [Stream.decide, Stream.decide, h.remedyFor, h.kind]

theorem outputFixes (h : Alike s s') (e : Nat) : s'.outputFixes e = s.outputFixes e := by
  have hleaves : ∀ leaves marker, s'.leafFixes e marker leaves = s.leafFixes e marker leaves := by
    intro leaves
    induction leaves with
    | nil => intro marker; rfl
    | cons l leaves ih =>
      intro marker
      rw [leafFixes, leafFixes, h.judge]
      cases s.judge .standard l with
      | unescaped anchor => simp only [h.decide, ih]
      | safe => exact ih marker
      | skipped => exact ih marker
  rw [Stream.outputFixes, Stream.outputFixes, h.gate, h.statementWalk, hleaves]

/-- The same places are fixed. -/
theorem allOutputFixes (h : Alike s s') : s'.allOutputFixes = s.allOutputFixes := by
  rw [Stream.allOutputFixes, Stream.allOutputFixes, h.entryPoints]
  exact congrArg (fun g => List.flatMap g s.entryPoints) (funext h.outputFixes)

theorem asksForMark (h : Alike s s') (e : Nat) : s'.AsksForMark e ↔ s.AsksForMark e := by
  simp only [AsksForMark, h.exempt, h.statementWalk, h.judge, h.decide]

end Alike

/-! ## The escaper in place of the block -/

/-- A lexeme, or the escaper in place of the block. -/
def Swap (l l' : Lexeme) : Prop := l' = l ∨ l = blockVariable ∧ l' = escaperVariable

theorem Swap.kind {l l' : Lexeme} (h : Swap l l') : l'.kind = l.kind := by
  rcases h with rfl | ⟨rfl, rfl⟩ <;> rfl

/-- Two builders that have seen lexemes of the same kinds. -/
structure Builder.Alike (b b' : Builder) : Prop where
  size : b'.tokens.size = b.tokens.size
  openings : b'.openings = b.openings
  partner : b'.partner? = b.partner?

theorem Builder.Alike.push {b b' : Builder} (h : b.Alike b') {l l' : Lexeme}
    (hkind : l'.kind = l.kind) : (b.push l).Alike (b'.push l') := by
  have hsize : (b'.push l').tokens.size = (b.push l).tokens.size := by
    rw [size_push, size_push, h.size]
  have hkeep : (∀ i, (b.push l).partner? i = b.partner? i) →
      (∀ i, (b'.push l').partner? i = b'.partner? i) →
      (b'.push l').partner? = (b.push l).partner? := by
    intro hsame hsame'
    funext i
    rw [hsame, hsame', h.partner]
  rcases push_cases b l with ⟨hk, hopen, hsame⟩ | ⟨o, os, hk, hstack, hopen, hsame⟩ |
    ⟨hk, hopen, hsame⟩ | ⟨hk, htag, hnone, hopen, hsame⟩
  · obtain ⟨hopen', hsame'⟩ := push_of_opening b' (hkind.trans hk)
    exact ⟨hsize, by rw [hopen, hopen', h.size, h.openings], hkeep hsame hsame'⟩
  · obtain ⟨hopen', hsame'⟩ := push_of_closing (hkind.trans hk) (h.openings.trans hstack)
    refine ⟨hsize, by rw [hopen, hopen'], funext fun i => ?_⟩
    rw [hsame, hsame', h.size, h.partner]
  · obtain ⟨hopen', hsame'⟩ := push_of_closeTag b' (hkind.trans hk)
    exact ⟨hsize, by rw [hopen, hopen'], hkeep hsame hsame'⟩
  · rw [← hkind] at hk htag hnone
    rw [← h.openings] at hnone
    obtain ⟨hopen', hsame'⟩ := push_of_other hk htag hnone
    exact ⟨hsize, by rw [hopen, hopen', h.openings], hkeep hsame hsame'⟩

theorem Builder.Alike.pushAll {ls ls' : List Lexeme} (hls : List.Forall₂ Swap ls ls')
    {b b' : Builder} (h : b.Alike b') : (b.pushAll ls).Alike (b'.pushAll ls') := by
  induction hls generalizing b b' with
  | nil => exact h
  | cons hswap _ ih => exact ih (h.push hswap.kind)

theorem getElem?_swap {ls ls' : List Lexeme} (h : List.Forall₂ Swap ls ls') (i : Nat) :
    (ls[i]? = none ∧ ls'[i]? = none) ∨
      ∃ l l', ls[i]? = some l ∧ ls'[i]? = some l' ∧ Swap l l' := by
  induction h generalizing i with
  | nil => exact .inl ⟨rfl, rfl⟩
  | @cons l l' _ _ hswap _ ih =>
    cases i with
    | zero => exact .inr ⟨l, l', rfl, rfl, hswap⟩
    | succ i => exact ih i

theorem alike_of_swap {ls ls' : List Lexeme} (h : List.Forall₂ Swap ls ls') :
    (ofLexemes ls).Alike (ofLexemes ls') where
  size := by rw [size_ofLexemes, size_ofLexemes, h.length_eq]
  kind := by
    funext i
    rw [kind?_ofLexemes, kind?_ofLexemes]
    rcases getElem?_swap h i with ⟨hl, hl'⟩ | ⟨l, l', hl, hl', hswap⟩
    · rw [hl, hl']
    · rw [hl, hl']
      exact congrArg some hswap.kind
  partner := (Builder.Alike.pushAll h ⟨rfl, rfl, rfl⟩).partner
  text := by
    intro i
    rw [text_ofLexemes, text_ofLexemes, kind?_ofLexemes]
    rcases getElem?_swap h i with ⟨hl, hl'⟩ | ⟨l, l', hl, hl', hswap⟩ <;> rw [hl, hl']
    · exact .inl rfl
    · rcases hswap with rfl | ⟨rfl, rfl⟩
      · exact .inl rfl
      · exact .inr ⟨rfl, rfl, rfl⟩

end Stream

end EscapeAudit
