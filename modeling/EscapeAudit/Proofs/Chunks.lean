import EscapeAudit.Proofs.Findings
import EscapeAudit.Proofs.Walk

/-!
# What is put around one token

The fixes for output stand apart when no statement begins inside another one (`tidy_outputFixes`).
So at most one of them is about a token, and there are five forms of what a token is replaced by
(`Tidy.chunk`).
-/

namespace EscapeAudit

open Lexer

namespace Fix

/-- The first token that a fix is about. -/
def first : Fix → Nat
  | wrap first _ _ => first
  | mark place => place
  | swap place => place
  | declare => 0

/-- The last token that a fix is about. -/
def last : Fix → Nat
  | wrap _ last _ => last
  | mark place => place
  | swap place => place
  | declare => 0

/-- Whether a fix is for output, so it puts lexemes before or behind tokens. -/
def isInsertion : Fix → Bool
  | wrap _ _ _ | mark _ => true
  | swap _ | declare => false

/-- No token is in both fixes. -/
def Apart (f g : Fix) : Prop := f.last < g.first ∨ g.last < f.first

theorem lexemesBefore_eq_nil {f : Fix} {i : Nat} (h : f.first ≠ i) : f.lexemesBefore i = [] := by
  cases f <;> simp_all [first, lexemesBefore]

theorem lexemesAfter_eq_nil {f : Fix} {i : Nat} (h : f.last ≠ i) : f.lexemesAfter i = [] := by
  cases f <;> simp_all [last, lexemesAfter]

end Fix

/-- Insertions that stand apart. -/
structure Tidy (fixes : List Fix) : Prop where
  apart : fixes.Pairwise Fix.Apart
  ordered : ∀ f ∈ fixes, f.first ≤ f.last
  isInsertion : ∀ f ∈ fixes, f.isInsertion = true

/-- What a token is replaced by. -/
inductive Chunk (fixes : List Fix) (i : Nat) (l : Lexeme) : List Lexeme → Prop where
  /-- The token stays. -/
  | keep : (∀ f ∈ fixes, f.first ≠ i ∧ f.last ≠ i) → Chunk fixes i l [l]
  /-- A call is put around the token. -/
  | whole {f : EscapeFunction} : .wrap i i f ∈ fixes →
    Chunk fixes i l (escaperCall f ++ [l, closing])
  /-- A call begins before the token. -/
  | first {last : Nat} {f : EscapeFunction} : .wrap i last f ∈ fixes → i < last →
    Chunk fixes i l (escaperCall f ++ [l])
  /-- A call ends behind the token. -/
  | last {first : Nat} {f : EscapeFunction} : .wrap first i f ∈ fixes → first < i →
    Chunk fixes i l [l, closing]
  /-- A mark is put before the token. -/
  | mark : .mark i ∈ fixes → Chunk fixes i l (exemptionMark ++ [l])

namespace Tidy

variable {fixes : List Fix}

theorem not_swaps (h : Tidy fixes) (i : Nat) : fixes.any (Fix.swaps i) = false := by
  rw [List.any_eq_false]
  intro f hf
  have hinsertion := h.isInsertion f hf
  cases f <;> simp_all [Fix.swaps, Fix.isInsertion]

theorem chunkOf_eq (h : Tidy fixes) (i : Nat) (l : Lexeme) :
    chunkOf fixes i l =
      fixes.reverse.flatMap (Fix.lexemesBefore i) ++ l :: fixes.flatMap (Fix.lexemesAfter i) := by
  rw [chunkOf, h.not_swaps]
  rfl

/-- The fix that is about a token is alone in this. -/
theorem chunkOf_of_mem (h : Tidy fixes) {f : Fix} (hf : f ∈ fixes) {i : Nat} (hfirst : f.first ≤ i)
    (hlast : i ≤ f.last) (l : Lexeme) :
    chunkOf fixes i l = f.lexemesBefore i ++ l :: f.lexemesAfter i := by
  have hother : ∀ g ∈ fixes, f.Apart g ∨ g.Apart f → g.first ≠ i ∧ g.last ≠ i := by
    intro g hg hapart
    have := h.ordered g hg
    simp only [Fix.Apart] at hapart
    omega
  have hreverse : fixes.reverse.Pairwise fun f g => g.Apart f :=
    List.pairwise_reverse.mpr h.apart
  rw [h.chunkOf_eq,
    List.flatMap_eq_of_pairwise hreverse (List.mem_reverse.mpr hf) fun g hg hapart =>
      Fix.lexemesBefore_eq_nil (hother g (List.mem_reverse.mp hg) hapart.symm).1,
    List.flatMap_eq_of_pairwise h.apart hf fun g hg hapart =>
      Fix.lexemesAfter_eq_nil (hother g hg hapart).2]

theorem chunkOf_of_not_mem (h : Tidy fixes) {i : Nat}
    (hnone : ∀ f ∈ fixes, f.first ≠ i ∧ f.last ≠ i) (l : Lexeme) : chunkOf fixes i l = [l] := by
  have hbefore : fixes.reverse.flatMap (Fix.lexemesBefore i) = [] :=
    List.flatMap_eq_nil_iff.mpr fun f hf =>
      Fix.lexemesBefore_eq_nil (hnone f (List.mem_reverse.mp hf)).1
  have hafter : fixes.flatMap (Fix.lexemesAfter i) = [] :=
    List.flatMap_eq_nil_iff.mpr fun f hf => Fix.lexemesAfter_eq_nil (hnone f hf).2
  rw [h.chunkOf_eq, hbefore, hafter, List.nil_append]

/-- There are five forms of what a token is replaced by. -/
theorem chunk (h : Tidy fixes) (i : Nat) (l : Lexeme) : Chunk fixes i l (chunkOf fixes i l) := by
  by_cases hnone : ∀ f ∈ fixes, f.first ≠ i ∧ f.last ≠ i
  · rw [h.chunkOf_of_not_mem hnone]
    exact .keep hnone
  · obtain ⟨f, hf, htouch⟩ : ∃ f ∈ fixes, f.first = i ∨ f.last = i := by
      simpa [Classical.not_imp, Classical.or_iff_not_imp_left] using hnone
    have hordered := h.ordered f hf
    have hinsertion := h.isInsertion f hf
    rw [h.chunkOf_of_mem hf (by omega) (by omega)]
    cases f with
    | wrap first last g =>
      simp only [Fix.first, Fix.last] at htouch hordered
      by_cases hfirst : first = i
      · subst hfirst
        by_cases hlast : last = first
        · subst hlast
          simpa [Fix.lexemesBefore, Fix.lexemesAfter] using Chunk.whole hf
        · simpa [Fix.lexemesBefore, Fix.lexemesAfter, hlast] using Chunk.first hf (by omega)
      · obtain rfl : last = i := by omega
        simpa [Fix.lexemesBefore, Fix.lexemesAfter, hfirst] using Chunk.last hf (by omega)
    | mark place =>
      obtain rfl : place = i := by simpa [Fix.first, Fix.last] using htouch
      simpa [Fix.lexemesBefore, Fix.lexemesAfter] using Chunk.mark hf
    | swap => cases hinsertion
    | declare => cases hinsertion

end Tidy

/-! ## The fixes for output -/

namespace Stream

/-- No statement begins inside another one. -/
def EntriesApart (s : Stream) : Prop :=
  ∀ e ∈ s.entryPoints, ∀ e' ∈ s.entryPoints,
    ¬ ((s.statementRange e).start ≤ e' ∧ e' < (s.statementRange e).stop)

instance (s : Stream) : Decidable s.EntriesApart :=
  inferInstanceAs (Decidable (∀ e ∈ s.entryPoints, ∀ e' ∈ s.entryPoints,
    ¬ ((s.statementRange e).start ≤ e' ∧ e' < (s.statementRange e).stop)))

/-- All fixes for output. -/
def allOutputFixes (s : Stream) : List Fix := s.entryPoints.flatMap s.outputFixes

/-- The fix for a leaf is about the leaf or marks the statement. -/
theorem span_of_fix? {s : Stream} {entry : Nat} {l : Leaf} {anchor : Nat} {f : Fix}
    (h : (s.decide .standard entry l.first l.last anchor).fix? = some f) :
    (∃ g, f = .wrap l.first l.last g) ∨ f = .mark l.first ∨ f = .mark entry := by
  unfold Decision.fix? at h
  split at h
  · cases h
  · obtain rfl := Option.some.inj h
    simp only [decide]
    split
    · exact .inr (.inr rfl)
    · exact .inr (.inl rfl)
  · exact .inl ⟨_, (Option.some.inj h).symm⟩

section Leaves

variable {s : Stream} {entry : Nat} {leaves : List Leaf}

/-- The mark of a statement is placed once. -/
theorem mark_not_mem_leafFixes (hleaves : ∀ l ∈ leaves, entry < l.first) :
    .mark entry ∉ s.leafFixes entry false leaves := by
  induction leaves with
  | nil => simp [leafFixes]
  | cons l rest ih =>
    have hrest := ih fun m hm => hleaves m (by simp [hm])
    have hl := hleaves l (by simp)
    rw [leafFixes]
    cases s.judge .standard l with
    | safe => exact hrest
    | skipped => exact hrest
    | unescaped anchor =>
      simp only [Bool.not_false, Bool.and_true, Bool.false_and, List.mem_append, not_or]
      refine ⟨?_, hrest⟩
      split
      · simp
      · rename_i hmarks
        intro hmem
        rw [Option.mem_toList] at hmem
        unfold Decision.fix? at hmem
        split at hmem
        · cases hmem
        · rename_i hremedy
          have hat : (s.decide .standard entry l.first l.last anchor).markerAt = entry := by
            simpa using hmem
          simp [hremedy, hat] at hmarks
        · cases hmem

theorem pairwise_leafFixes (hapart : leaves.Pairwise Leaf.Apart)
    (hleaves : ∀ l ∈ leaves, entry < l.first ∧ l.first ≤ l.last) (marker : Bool) :
    (s.leafFixes entry marker leaves).Pairwise Fix.Apart := by
  induction leaves generalizing marker with
  | nil => exact .nil
  | cons l rest ih =>
    obtain ⟨hl, hrest⟩ := List.pairwise_cons.mp hapart
    have ih := ih hrest fun m hm => hleaves m (by simp [hm])
    obtain ⟨hentry, hle⟩ := hleaves l (by simp)
    rw [leafFixes]
    cases s.judge .standard l with
    | safe => exact ih marker
    | skipped => exact ih marker
    | unescaped anchor =>
      dsimp only
      split
      · exact ih _
      · cases hfix : (s.decide .standard entry l.first l.last anchor).fix? with
        | none => exact ih _
        | some f =>
          refine List.pairwise_cons.mpr ⟨fun g hg => ?_, ih _⟩
          obtain ⟨m, hm, _, _, hgfix⟩ := mem_leafFixes hg
          obtain ⟨hentry', hle'⟩ := hleaves m (by simp [hm])
          have hlm := hl m hm
          have hspan := span_of_fix? hfix
          have hspan' := span_of_fix? hgfix
          have htwice : ¬ (f = .mark entry ∧ g = .mark entry) := by
            rintro ⟨rfl, rfl⟩
            have hmarks : ((s.decide .standard entry l.first l.last anchor).remedy == .mark &&
                (s.decide .standard entry l.first l.last anchor).markerAt == entry) = true := by
              unfold Decision.fix? at hfix
              split at hfix
              · cases hfix
              · rename_i hremedy
                simpa [hremedy] using hfix
              · cases hfix
            rw [hmarks, Bool.not_true, Bool.and_false] at hg
            exact mark_not_mem_leafFixes (fun k hk => (hleaves k (by simp [hk])).1) hg
          unfold Leaf.Apart at hlm
          rcases hspan with ⟨_, rfl⟩ | rfl | rfl <;> rcases hspan' with ⟨_, rfl⟩ | rfl | rfl
          all_goals
            simp only [Fix.Apart, Fix.first, Fix.last]
            first
              | exact absurd ⟨rfl, rfl⟩ htwice
              | omega

end Leaves

/-- The leaves of a statement stand behind its beginning and apart from each other. -/
theorem leaves_statementWalk (s : Stream) (entry : Nat) :
    (s.statementWalk entry).leaves.Pairwise Leaf.Apart ∧
      ∀ l ∈ (s.statementWalk entry).leaves,
        entry < l.first ∧ l.first ≤ l.last ∧ l.last < s.statementEnd entry := by
  rw [statementWalk_eq]
  refine ⟨pairwise_leaves (List.pairwise_singleton _ _), fun l hl => ?_⟩
  obtain ⟨r, hr, hunder⟩ := under_of_mem_leaves hl
  obtain rfl := List.mem_singleton.mp hr
  have hwithin := hunder.within
  simp only [statementRange] at hwithin
  exact ⟨by omega, hunder.first_le, hwithin.2⟩

theorem span_of_mem_outputFixes {s : Stream} {entry : Nat} {f : Fix}
    (hf : f ∈ s.outputFixes entry) :
    f.isInsertion = true ∧ entry ≤ f.first ∧ f.first ≤ f.last ∧
      (f.last = entry ∨ f.last < s.statementEnd entry) := by
  obtain ⟨l, hl, anchor, _, hfix⟩ := mem_outputFixes hf
  obtain ⟨hfirst, hle, hlast⟩ := (s.leaves_statementWalk entry).2 l hl
  rcases span_of_fix? hfix with ⟨g, rfl⟩ | rfl | rfl
  · exact ⟨rfl, Nat.le_of_lt hfirst, hle, .inr hlast⟩
  · exact ⟨rfl, Nat.le_of_lt hfirst, Nat.le_refl _, .inr (Nat.lt_of_le_of_lt hle hlast)⟩
  · exact ⟨rfl, Nat.le_refl _, Nat.le_refl _, .inl rfl⟩

theorem isInsertion_of_mem_allOutputFixes {s : Stream} {f : Fix} (hf : f ∈ s.allOutputFixes) :
    f.isInsertion = true := by
  obtain ⟨e, _, hf⟩ := List.mem_flatMap.mp hf
  exact (span_of_mem_outputFixes hf).1

theorem pairwise_outputFixes (s : Stream) (entry : Nat) :
    (s.outputFixes entry).Pairwise Fix.Apart := by
  obtain ⟨hapart, hleaves⟩ := s.leaves_statementWalk entry
  unfold outputFixes
  split
  · exact .nil
  · exact pairwise_leafFixes hapart (fun l hl => ⟨(hleaves l hl).1, (hleaves l hl).2.1⟩) true

theorem pairwise_entryPoints (s : Stream) : s.entryPoints.Pairwise (· < ·) :=
  List.pairwise_lt_range.filter _

/-- The fixes for output are insertions that stand apart. -/
theorem tidy_allOutputFixes {s : Stream} (h : s.EntriesApart) : Tidy s.allOutputFixes := by
  refine ⟨?_, fun f hf => ?_, fun f hf => ?_⟩
  · rw [allOutputFixes, List.pairwise_flatMap]
    refine ⟨fun e _ => s.pairwise_outputFixes e, ?_⟩
    refine s.pairwise_entryPoints.imp_of_mem fun {e e'} he he' hlt f hf g hg => .inl ?_
    have hend := h e he e' he'
    obtain ⟨_, _, _, hlast⟩ := span_of_mem_outputFixes hf
    obtain ⟨_, hfirst, _⟩ := span_of_mem_outputFixes hg
    simp only [statementRange] at hend
    omega
  · obtain ⟨e, _, hf⟩ := List.mem_flatMap.mp hf
    exact (span_of_mem_outputFixes hf).2.2.1
  · obtain ⟨e, _, hf⟩ := List.mem_flatMap.mp hf
    exact (span_of_mem_outputFixes hf).1

end Stream

end EscapeAudit
