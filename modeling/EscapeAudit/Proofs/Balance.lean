import EscapeAudit.Proofs.Leaf

/-!
# Balanced lexemes and their scope

Lexemes are balanced when every parenthesis among them finds its partner among them, and no close
tag stands between.  Counting the depth is enough to see it.  Inside balanced lexemes the stack of a
stream comes back to what it was (`openings_pushAll`), so partners can be read off the lexemes
alone (`partner?_group`), whatever stands around them.

The tokens in scope of a range of balanced lexemes are those at depth zero (`inScope_eq_outermost`).
This is how the splitting of a range is computed in later modules: from a list of lexemes and not
from the stream that they are a part of.
-/

namespace EscapeAudit

namespace Stream

/-! ## Depth -/

/-- The depth behind a token of a kind, if there is one. -/
def depthStep (depth : Nat) : Kind → Option Nat
  | .openParenthesis => some (depth + 1)
  | .closeParenthesis => if depth = 0 then none else some (depth - 1)
  | .closeTag => none
  | _ => some depth

/-- The depth behind lexemes, if no parenthesis closes too much and there is no close tag. -/
def depthAfter (depth : Nat) : List Lexeme → Option Nat
  | [] => some depth
  | l :: ls => (depthStep depth l.kind).bind fun d => depthAfter d ls

/-- Every parenthesis has its partner among the lexemes. -/
def Balanced (ls : List Lexeme) : Prop := depthAfter 0 ls = some 0

instance (ls : List Lexeme) : Decidable (Balanced ls) := inferInstanceAs (Decidable (_ = _))

/-- A kind that leaves the depth as it is. -/
def isFlat (k : Kind) : Bool := !k.isParenthesis && k != .closeTag

theorem isFlat_iff {k : Kind} : isFlat k = true ↔
    k ≠ .openParenthesis ∧ k ≠ .closeParenthesis ∧ k ≠ .closeTag := by
  cases k <;> simp [isFlat, Kind.isParenthesis]

theorem depthStep_cases {d e : Nat} {k : Kind} (h : depthStep d k = some e) :
    (k = .openParenthesis ∧ e = d + 1) ∨ (k = .closeParenthesis ∧ d = e + 1) ∨
      (isFlat k = true ∧ e = d) := by
  cases k with
  | openParenthesis => exact .inl ⟨rfl, (Option.some.inj h).symm⟩
  | closeParenthesis =>
    simp only [depthStep] at h
    split at h
    · cases h
    · exact .inr (.inl ⟨rfl, by have := Option.some.inj h; omega⟩)
  | closeTag => cases h
  | _ => exact .inr (.inr ⟨rfl, (Option.some.inj h).symm⟩)

theorem depthStep_of_isFlat {k : Kind} (h : isFlat k = true) (d : Nat) :
    depthStep d k = some d := by
  cases k <;> first | rfl | cases h

theorem depthAfter_cons {d e : Nat} {l : Lexeme} {ls : List Lexeme}
    (h : depthAfter d (l :: ls) = some e) :
    ∃ c, depthStep d l.kind = some c ∧ depthAfter c ls = some e :=
  Option.bind_eq_some_iff.mp h

theorem depthAfter_append (d : Nat) (ls ms : List Lexeme) :
    depthAfter d (ls ++ ms) = (depthAfter d ls).bind fun e => depthAfter e ms := by
  induction ls generalizing d with
  | nil => rfl
  | cons l ls ih =>
    simp only [List.cons_append, depthAfter, Option.bind_assoc]
    congr 1
    exact funext ih

theorem depthStep_add {d e : Nat} {k : Kind} (h : depthStep d k = some e) (n : Nat) :
    depthStep (d + n) k = some (e + n) := by
  rcases depthStep_cases h with ⟨rfl, rfl⟩ | ⟨rfl, rfl⟩ | ⟨hflat, rfl⟩
  · simp only [depthStep, Option.some.injEq]
    omega
  · simp only [depthStep]
    rw [if_neg (by omega)]
    congr 1
    omega
  · exact depthStep_of_isFlat hflat _

theorem depthAfter_add {d e : Nat} {ls : List Lexeme} (h : depthAfter d ls = some e) (n : Nat) :
    depthAfter (d + n) ls = some (e + n) := by
  induction ls generalizing d with
  | nil => cases h; rfl
  | cons l ls ih =>
    obtain ⟨c, hstep, hrest⟩ := depthAfter_cons h
    rw [depthAfter, depthStep_add hstep, Option.bind_some, ih hrest]

namespace Balanced

theorem nil : Balanced [] := rfl

theorem append {ls ms : List Lexeme} (hls : Balanced ls) (hms : Balanced ms) :
    Balanced (ls ++ ms) := by
  rw [Balanced, depthAfter_append, hls]
  exact hms

theorem of_append {ls ms : List Lexeme} (h : Balanced (ls ++ ms)) (hls : Balanced ls) :
    Balanced ms := by
  rw [Balanced, depthAfter_append, hls] at h
  exact h

theorem flat {l : Lexeme} {ls : List Lexeme} (hl : isFlat l.kind = true) :
    Balanced (l :: ls) ↔ Balanced ls := by
  rw [Balanced, depthAfter, depthStep_of_isFlat hl]
  rfl

theorem group {o c : Lexeme} {inner : List Lexeme} (ho : o.kind = .openParenthesis)
    (hc : c.kind = .closeParenthesis) (h : Balanced inner) : Balanced (o :: (inner ++ [c])) := by
  have hinner := depthAfter_add h 1
  rw [Balanced, depthAfter, ho]
  simp only [depthStep, Option.bind_some, depthAfter_append, hinner, depthAfter, hc]
  rfl

/-- Lexemes that leave no parenthesis open, but one that was open before them, have its partner
among them. -/
theorem exists_closing {d e : Nat} {ls : List Lexeme} (h : depthAfter (d + 1) ls = some e)
    (hle : e ≤ d) :
    ∃ inner c rest, ls = inner ++ c :: rest ∧ c.kind = .closeParenthesis ∧ Balanced inner ∧
      depthAfter d rest = some e := by
  induction hn : ls.length using Nat.strongRecOn generalizing d ls with
  | _ n ih =>
    subst hn
    cases ls with
    | nil => cases h; omega
    | cons l ls =>
      obtain ⟨b, hstep, hrest⟩ := depthAfter_cons h
      rcases depthStep_cases hstep with ⟨hl, rfl⟩ | ⟨hl, hb⟩ | ⟨hl, rfl⟩
      · -- The partner stands behind the pair that begins here.
        obtain ⟨inner, c, rest, rfl, hc, hinner, hrest⟩ := ih _ (by simp) hrest (by omega) rfl
        obtain ⟨inner', c', rest', rfl, hc', hinner', hrest'⟩ :=
          ih _ (by simp; omega) hrest hle rfl
        exact ⟨l :: (inner ++ [c]) ++ inner', c', rest', by simp, hc',
          (group hl hc hinner).append hinner', hrest'⟩
      · obtain rfl : d = b := by omega
        exact ⟨[], l, ls, rfl, hl, nil, hrest⟩
      · obtain ⟨inner, c, rest, rfl, hc, hinner, hrest⟩ := ih _ (by simp) hrest hle rfl
        exact ⟨l :: inner, c, rest, rfl, hc, (flat hl).mpr hinner, hrest⟩

/-- A balanced list begins with a token or with a pair. -/
theorem cases_cons {l : Lexeme} {ls : List Lexeme} (h : Balanced (l :: ls)) :
    (isFlat l.kind = true ∧ Balanced ls) ∨
      (l.kind = .openParenthesis ∧ ∃ inner c rest, ls = inner ++ c :: rest ∧
        c.kind = .closeParenthesis ∧ Balanced inner ∧ Balanced rest) := by
  obtain ⟨c, hstep, hrest⟩ := depthAfter_cons h
  rcases depthStep_cases hstep with ⟨hl, rfl⟩ | ⟨_, hzero⟩ | ⟨hl, rfl⟩
  · obtain ⟨inner, c, rest, hls, hc, hinner, hrest⟩ := exists_closing hrest (Nat.le_refl 0)
    exact .inr ⟨hl, inner, c, rest, hls, hc, hinner, hrest⟩
  · omega
  · exact .inl ⟨hl, hrest⟩

end Balanced

/-! ## Partners -/

theorem openings_push_of_isFlat (b : Builder) {l : Lexeme} (hl : isFlat l.kind = true) :
    (b.push l).openings = b.openings := by
  obtain ⟨hopen, hclose, htag⟩ := isFlat_iff.mp hl
  exact (Builder.push_of_other hopen htag fun hkind => absurd hkind hclose).1

/-- The stack behind lexemes: as many openings as the depth says, on those from before. -/
theorem openings_pushAll {b : Builder} {ls : List Lexeme} {d e : Nat}
    (h : depthAfter d ls = some e) {own older : List Nat} (hopen : b.openings = own ++ older)
    (hlength : own.length = d) :
    ∃ own', (b.pushAll ls).openings = own' ++ older ∧ own'.length = e := by
  induction ls generalizing b d own with
  | nil => cases h; exact ⟨own, hopen, hlength⟩
  | cons l ls ih =>
    obtain ⟨c, hstep, hrest⟩ := depthAfter_cons h
    rw [show b.pushAll (l :: ls) = (b.push l).pushAll ls from rfl]
    rcases depthStep_cases hstep with ⟨hl, rfl⟩ | ⟨hl, rfl⟩ | ⟨hl, rfl⟩
    · have hpush : (b.push l).openings = (b.tokens.size :: own) ++ older := by
        rw [(Builder.push_of_opening b hl).1, hopen, List.cons_append]
      exact ih hrest hpush (by simp [hlength])
    · cases own with
      | nil => simp at hlength
      | cons o own =>
        exact ih hrest (Builder.push_of_closing hl hopen).1 (by simpa using hlength)
    · exact ih hrest ((openings_push_of_isFlat b hl).trans hopen) hlength

/-- The parentheses around balanced lexemes are partners. -/
theorem partner?_group {before inner rest : List Lexeme} {o c : Lexeme}
    (ho : o.kind = .openParenthesis) (hc : c.kind = .closeParenthesis) (h : Balanced inner) :
    (ofLexemes (before ++ o :: (inner ++ c :: rest))).partner? before.length =
      some (before.length + inner.length + 1) := by
  obtain ⟨b, hb⟩ : ∃ b, b = Builder.empty.pushAll before := ⟨_, rfl⟩
  have hsize : b.tokens.size = before.length := by
    rw [hb, Builder.size_pushAll, Builder.empty]
    simp
  have hsplit : (ofLexemes (before ++ o :: (inner ++ c :: rest))).partner? before.length =
      ((((b.push o).pushAll inner).push c).pushAll rest).partner? before.length := by
    rw [hb]
    simp only [ofLexemes, Builder.pushAll, List.foldl_append, List.foldl_cons]
    rfl
  have hwired : ((b.push o).pushAll inner).Wired := by
    rw [hb]
    exact ((Builder.wired_empty.pushAll before).push o).pushAll inner
  have hopen : ((b.push o).pushAll inner).openings = before.length :: b.openings := by
    have hpush : (b.push o).openings = [] ++ before.length :: b.openings := by
      rw [(Builder.push_of_opening b ho).1, hsize, List.nil_append]
    obtain ⟨own, hown, hlength⟩ := openings_pushAll h hpush rfl
    rw [hown, List.length_eq_zero_iff.mp hlength, List.nil_append]
  have hsize' : ((b.push o).pushAll inner).tokens.size = before.length + inner.length + 1 := by
    rw [Builder.size_pushAll, Builder.size_push, hsize]
    omega
  -- The closing parenthesis finds the opening one on top of the stack.
  have hclosing := hwired.partner?_closing hc rest
  rw [hopen, List.head?_cons, hsize'] at hclosing
  rw [hsplit]
  exact (((hwired.push c).pushAll rest).paired _ _ hclosing).1

/-- Where every parenthesis finds its partner among lexemes, the depth comes back to zero.  The stack
has the openings among the lexemes so far on those from before. -/
theorem depthAfter_of_matched {b : Builder} (hwired : b.Wired) {a : Nat} (own : List Nat)
    {older : List Nat}
    (hopen : b.openings = own ++ older) (hown : ∀ i ∈ own, a ≤ i) (holder : ∀ i ∈ older, i < a)
    (ha : a ≤ b.tokens.size) {ls rest : List Lexeme} (htag : ∀ l ∈ ls, l.kind ≠ .closeTag)
    (hmatched : ∀ i k, a ≤ i → i < b.tokens.size + ls.length →
      (b.pushAll (ls ++ rest)).kind? i = some k → k.isParenthesis = true →
      ∃ j, a ≤ j ∧ j < b.tokens.size + ls.length ∧
        (b.pushAll (ls ++ rest)).partner? i = some j) :
    depthAfter own.length ls = some 0 := by
  induction ls generalizing b own with
  | nil =>
    cases own with
    | nil => rfl
    | cons i own =>
      have hmem : i ∈ b.openings := by simp [hopen]
      obtain ⟨hlt, hkind, _⟩ := hwired.waiting i hmem
      rw [← Builder.kind?_pushAll hlt ([] ++ rest)] at hkind
      obtain ⟨j, _, hj, hpartner⟩ := hmatched i _ (hown i (by simp)) hlt hkind rfl
      have := Builder.partner?_pushAll_waiting hwired hmem _ hpartner
      simp only [List.length_nil] at hj
      omega
  | cons l ls ih =>
    have hsize := Builder.size_push b l
    have hlength : b.tokens.size + (l :: ls).length = (b.push l).tokens.size + ls.length := by
      rw [hsize, List.length_cons]
      omega
    have hstep : b.pushAll (l :: ls ++ rest) = (b.push l).pushAll (ls ++ rest) := rfl
    rw [hlength, hstep] at hmatched
    have hrest := fun own hopen hown => ih (hwired.push l) own hopen hown (by omega)
      (fun m hm => htag m (by simp [hm])) hmatched
    have hkind : ((b.push l).pushAll (ls ++ rest)).kind? b.tokens.size = some l.kind := by
      rw [Builder.kind?_pushAll (by omega), Builder.kind?_push_self]
    rw [depthAfter]
    rcases Builder.push_cases b l with ⟨hl, hpush, _⟩ | ⟨o, os, hl, hstack, hpush, _⟩ | ⟨hl, _⟩ |
      ⟨hl, _, hempty, hpush, _⟩
    · rw [hl]
      refine hrest (b.tokens.size :: own) (by rw [hpush, hopen]; rfl) fun i hi => ?_
      rcases List.mem_cons.mp hi with rfl | hi
      · exact ha
      · exact hown i hi
    · obtain ⟨j, hj, _, hfound⟩ := hmatched _ _ ha (by omega) hkind (by rw [hl]; rfl)
      rw [hwired.partner?_closing hl, hstack, List.head?_cons] at hfound
      obtain rfl := Option.some.inj hfound
      cases own with
      | nil =>
        have := holder o (by rw [hopen, List.nil_append] at hstack; simp [hstack])
        omega
      | cons i own =>
        rw [hopen, List.cons_append] at hstack
        obtain ⟨rfl, rfl⟩ := List.cons_eq_cons.mp hstack
        rw [hl]
        exact hrest own hpush fun i hi => hown i (by simp [hi])
    · exact absurd hl (htag l (by simp))
    · have hclose : l.kind ≠ .closeParenthesis := by
        intro hclose
        obtain ⟨j, _, _, hfound⟩ := hmatched _ _ ha (by omega) hkind (by rw [hclose]; rfl)
        rw [hwired.partner?_closing hclose, hempty hclose] at hfound
        cases hfound
      rw [depthStep_of_isFlat (isFlat_iff.mpr ⟨hl, hclose, htag l (by simp)⟩)]
      exact hrest own (by rw [hpush, hopen]) hown

/-- Every parenthesis of a range has its partner in the range. -/
def Matched (s : Stream) (r : Range) : Prop :=
  ∀ i k, r.start ≤ i → i < r.stop → s.kind? i = some k → k.isParenthesis = true →
    ∃ j, r.start ≤ j ∧ j < r.stop ∧ s.partner? i = some j

theorem matched_iff {s : Stream} {r : Range} :
    s.Matched r ↔ ∀ i ∈ List.range' r.start (r.stop - r.start),
      s.holds Kind.isParenthesis i = true →
        (s.partner? i).any fun j => r.start ≤ j && j < r.stop := by
  simp only [Matched, List.mem_range'_1, holds_iff, Option.any_eq_true, Bool.and_eq_true,
    decide_eq_true_eq]
  constructor
  · rintro h i ⟨hstart, hstop⟩ ⟨k, hk, hparen⟩
    obtain ⟨j, hj, hlt, hpartner⟩ := h i k hstart (by omega) hk hparen
    exact ⟨j, hpartner, hj, hlt⟩
  · intro h i k hstart hstop hk hparen
    obtain ⟨j, hpartner, hj, hlt⟩ := h i ⟨hstart, by omega⟩ ⟨k, hk, hparen⟩
    exact ⟨j, hj, hlt, hpartner⟩

instance (s : Stream) (r : Range) : Decidable (s.Matched r) :=
  decidable_of_iff _ matched_iff.symm

/-- Where every parenthesis of lexemes has its partner among them, they are balanced. -/
theorem balanced_of_matched {before ls rest : List Lexeme}
    (h : (ofLexemes (before ++ (ls ++ rest))).Matched
      ⟨before.length, before.length + ls.length⟩)
    (htag : ∀ l ∈ ls, l.kind ≠ .closeTag) : Balanced ls := by
  obtain ⟨b, hb⟩ : ∃ b, b = Builder.empty.pushAll before := ⟨_, rfl⟩
  have hwired : b.Wired := by
    rw [hb]
    exact Builder.wired_empty.pushAll before
  have hsize : b.tokens.size = before.length := by
    rw [hb, Builder.size_pushAll, Builder.empty]
    simp
  have hsplit : ofLexemes (before ++ (ls ++ rest)) = (b.pushAll (ls ++ rest)).build := by
    rw [hb]
    simp only [ofLexemes, Builder.pushAll, List.foldl_append]
  rw [hsplit, ← hsize] at h
  exact depthAfter_of_matched hwired [] rfl (by simp) (fun i hi => (hwired.waiting i hi).1)
    (Nat.le_refl _) htag h

/-! ## Scope -/

/-- The indices, from `i` on, of the lexemes at depth zero whose kind passes the test. -/
def outermost (test : Kind → Bool) : (depth i : Nat) → List Lexeme → List Nat
  | _, _, [] => []
  | depth, i, l :: ls =>
    match l.kind with
    | .openParenthesis => outermost test (depth + 1) (i + 1) ls
    | .closeParenthesis => outermost test (depth - 1) (i + 1) ls
    | k => (if depth = 0 ∧ test k = true then [i] else []) ++ outermost test depth (i + 1) ls

/-- Lexemes somewhere in a stream. -/
def Lies (s : Stream) (a : Nat) (ls : List Lexeme) : Prop :=
  ∃ before after, s = ofLexemes (before ++ (ls ++ after)) ∧ before.length = a

namespace Lies

variable {s : Stream} {a : Nat} {ls ms : List Lexeme}

theorem left (h : s.Lies a (ls ++ ms)) : s.Lies a ls := by
  obtain ⟨before, after, rfl, rfl⟩ := h
  exact ⟨before, ms ++ after, by simp, rfl⟩

theorem right (h : s.Lies a (ls ++ ms)) : s.Lies (a + ls.length) ms := by
  obtain ⟨before, after, rfl, rfl⟩ := h
  exact ⟨before ++ ls, after, by simp, by simp⟩

theorem tail {l : Lexeme} (h : s.Lies a (l :: ls)) : s.Lies (a + 1) ls := by
  rw [← List.singleton_append] at h
  exact h.right

theorem kind? (h : s.Lies a ls) {i : Nat} {l : Lexeme} (hl : ls[i]? = some l) :
    s.kind? (a + i) = some l.kind := by
  obtain ⟨before, after, rfl, rfl⟩ := h
  have hlt := (List.getElem?_eq_some_iff.mp hl).1
  rw [kind?_ofLexemes, List.getElem?_append_right (by omega), Nat.add_sub_cancel_left,
    List.getElem?_append_left hlt, hl]
  rfl

theorem text (h : s.Lies a ls) {i : Nat} {l : Lexeme} (hl : ls[i]? = some l) :
    s.text (a + i) = l.text := by
  obtain ⟨before, after, rfl, rfl⟩ := h
  have hlt := (List.getElem?_eq_some_iff.mp hl).1
  rw [text_ofLexemes, List.getElem?_append_right (by omega), Nat.add_sub_cancel_left,
    List.getElem?_append_left hlt, hl]
  rfl

theorem holds (h : s.Lies a ls) {i : Nat} {l : Lexeme} (hl : ls[i]? = some l)
    (test : Kind → Bool) : s.holds test (a + i) = test l.kind := by
  have hkind := h.kind? hl
  cases htest : test l.kind with
  | true => exact holds_iff.mpr ⟨_, hkind, htest⟩
  | false =>
    cases hholds : s.holds test (a + i) with
    | false => rfl
    | true =>
      obtain ⟨k, hk, hpass⟩ := holds_iff.mp hholds
      obtain rfl : l.kind = k := Option.some.inj (hkind.symm.trans hk)
      rw [htest] at hpass
      cases hpass

end Lies

theorem skip_of_ne {s : Stream} {i : Nat} (h : s.kind? i ≠ some .openParenthesis) :
    s.skip i = i + 1 := by
  unfold skip
  split
  · rename_i hkind _
    exact absurd hkind h
  · rfl

theorem skip_opening {s : Stream} {i j : Nat} (hkind : s.kind? i = some .openParenthesis)
    (hpartner : s.partner? i = some j) (hlt : i < j) : s.skip i = j + 1 := by
  simp only [skip, hkind, hpartner, if_pos hlt]

/-- Behind a pair the next token in scope stands behind its closing parenthesis. -/
theorem Lies.skip_group {s : Stream} {a : Nat} {inner rest : List Lexeme} {o c : Lexeme}
    (h : s.Lies a (o :: (inner ++ c :: rest))) (ho : o.kind = .openParenthesis)
    (hc : c.kind = .closeParenthesis) (hinner : Balanced inner) :
    s.skip a = a + inner.length + 2 := by
  have hkind : s.kind? a = some .openParenthesis := by
    have := h.kind? (i := 0) rfl
    rwa [ho] at this
  obtain ⟨before, after, rfl, rfl⟩ := h
  have hpartner : (ofLexemes (before ++ (o :: (inner ++ c :: rest) ++ after))).partner?
      before.length = some (before.length + inner.length + 1) := by
    have hgroup : (ofLexemes (before ++ o :: (inner ++ c :: (rest ++ after)))).partner?
        before.length = some (before.length + inner.length + 1) := partner?_group ho hc hinner
    simpa using hgroup
  exact skip_opening hkind hpartner (by omega)

theorem Lies.skip_flat {s : Stream} {a : Nat} {l : Lexeme} {ls : List Lexeme}
    (h : s.Lies a (l :: ls)) (hl : isFlat l.kind = true) : s.skip a = a + 1 := by
  have hkind : s.kind? a = some l.kind := h.kind? (i := 0) rfl
  refine skip_of_ne fun hopen => ?_
  rw [hkind] at hopen
  rw [Option.some.inj hopen] at hl
  cases hl

section Outermost

variable (test : Kind → Bool)

theorem outermost_flat {l : Lexeme} (hl : isFlat l.kind = true) (d i : Nat) (ls : List Lexeme) :
    outermost test d i (l :: ls) =
      (if d = 0 ∧ test l.kind = true then [i] else []) ++ outermost test d (i + 1) ls := by
  rw [outermost]
  split
  · rename_i hkind; rw [hkind] at hl; cases hl
  · rename_i hkind; rw [hkind] at hl; cases hl
  · rfl

theorem outermost_append {d e : Nat} {ls : List Lexeme} (h : depthAfter d ls = some e) (i : Nat)
    (ms : List Lexeme) :
    outermost test d i (ls ++ ms) =
      outermost test d i ls ++ outermost test e (i + ls.length) ms := by
  induction ls generalizing d i with
  | nil => cases h; rfl
  | cons l ls ih =>
    obtain ⟨c, hstep, hrest⟩ := depthAfter_cons h
    have hindex : i + 1 + ls.length = i + (l :: ls).length := by
      rw [List.length_cons]
      omega
    rcases depthStep_cases hstep with ⟨hl, rfl⟩ | ⟨hl, rfl⟩ | ⟨hl, rfl⟩
    · simp only [List.cons_append, outermost, hl, ih hrest, hindex]
    · simp only [List.cons_append, outermost, hl, Nat.add_sub_cancel, ih hrest, hindex]
    · rw [List.cons_append, outermost_flat test hl, outermost_flat test hl, ih hrest, hindex,
        List.append_assoc]

/-- Inside a pair nothing is outermost. -/
theorem outermost_deep {d e : Nat} {ls : List Lexeme} (h : depthAfter d ls = some e) (i : Nat) :
    outermost test (d + 1) i ls = [] := by
  induction ls generalizing d i with
  | nil => rfl
  | cons l ls ih =>
    obtain ⟨c, hstep, hrest⟩ := depthAfter_cons h
    rcases depthStep_cases hstep with ⟨hl, rfl⟩ | ⟨hl, rfl⟩ | ⟨hl, rfl⟩
    · simp only [outermost, hl, ih hrest]
    · simp only [outermost, hl, Nat.add_sub_cancel, ih hrest]
    · rw [outermost_flat test hl, if_neg (by omega), ih hrest, List.nil_append]

theorem outermost_group {o c : Lexeme} {inner : List Lexeme} (ho : o.kind = .openParenthesis)
    (hc : c.kind = .closeParenthesis) (h : Balanced inner) (i : Nat) (rest : List Lexeme) :
    outermost test 0 i (o :: (inner ++ c :: rest)) =
      outermost test 0 (i + inner.length + 2) rest := by
  have hinner := depthAfter_add h 1
  have hindex : i + 1 + inner.length + 1 = i + inner.length + 2 := by omega
  rw [Nat.zero_add] at hinner
  simp only [outermost, ho]
  rw [Nat.zero_add, outermost_append test hinner, outermost_deep test h]
  simp only [outermost, hc, List.nil_append, hindex]

theorem outermost_shift (d i n : Nat) (ls : List Lexeme) :
    outermost test d (i + n) ls = (outermost test d i ls).map (· + n) := by
  induction ls generalizing d i with
  | nil => rfl
  | cons l ls ih =>
    have hindex : i + n + 1 = i + 1 + n := by omega
    rw [outermost, outermost]
    split
    · rw [hindex, ih]
    · rw [hindex, ih]
    · rw [hindex, ih, List.map_append]
      split <;> rfl

theorem inScopeFrom_step {s : Stream} {stop i : Nat} {k : Kind} (hlt : i < stop)
    (hk : s.kind? i = some k) (found : Array Nat) :
    s.inScopeFrom test stop i found =
      if test k then s.inScopeFrom test stop (i + 1) (found.push i)
      else s.inScopeFrom test stop (s.skip i) found := by
  rw [inScopeFrom, if_pos hlt, hk]

/-- The tokens in scope of balanced lexemes are the outermost ones. -/
theorem inScopeFrom_eq_outermost {s : Stream}
    (htest : test .openParenthesis = false) {a : Nat} {ls : List Lexeme} (hlies : s.Lies a ls)
    (hb : Balanced ls) (found : Array Nat) :
    (s.inScopeFrom test (a + ls.length) a found).toList =
      found.toList ++ outermost test 0 a ls := by
  induction hn : ls.length using Nat.strongRecOn generalizing a ls found with
  | _ n ih =>
    subst hn
    cases ls with
    | nil =>
      rw [inScopeFrom, if_neg (by simp)]
      simp [outermost]
    | cons l ls =>
      have hkind : s.kind? a = some l.kind := hlies.kind? (i := 0) rfl
      rw [inScopeFrom_step test (by simp) hkind]
      have hstop : a + (l :: ls).length = a + 1 + ls.length := by
        rw [List.length_cons]
        omega
      rcases hb.cases_cons with ⟨hl, hls⟩ | ⟨hl, inner, c, rest, rfl, hc, hinner, hrest⟩
      · rw [outermost_flat test hl, hstop]
        split
        · rename_i hpass
          rw [ih ls.length (by simp) hlies.tail hls _ rfl, if_pos ⟨rfl, hpass⟩]
          simp
        · rename_i hpass
          rw [hlies.skip_flat hl, ih ls.length (by simp) hlies.tail hls _ rfl,
            if_neg (fun h => hpass h.2), List.nil_append]
      · have hlies' : s.Lies (a + inner.length + 2) rest := by
          have hsplit : l :: (inner ++ c :: rest) = (l :: (inner ++ [c])) ++ rest := by simp
          rw [hsplit] at hlies
          have hright := hlies.right
          simpa [Nat.add_assoc] using hright
        have hstop' : a + (l :: (inner ++ c :: rest)).length =
            a + inner.length + 2 + rest.length := by
          simp
          omega
        rw [outermost_group test hl hc hinner, hl, htest, if_neg (by simp),
          hlies.skip_group hl hc hinner, hstop']
        exact ih rest.length (by simp; omega) hlies' hrest found rfl

theorem inScope_eq_outermost {s : Stream} (htest : test .openParenthesis = false) {a : Nat}
    {ls : List Lexeme} (hlies : s.Lies a ls) (hb : Balanced ls) :
    (s.inScope test ⟨a, a + ls.length⟩).toList = outermost test 0 a ls := by
  rw [inScope, inScopeFrom_eq_outermost test htest hlies hb]
  rfl

end Outermost

end Stream

end EscapeAudit
