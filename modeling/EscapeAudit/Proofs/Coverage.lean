import EscapeAudit.Proofs.Fixes
import EscapeAudit.Proofs.Mending

/-!
# Woven statements

Fixes are woven into a template token by token.  Here it is seen that they mend the lexemes of a
statement.  The argument follows the splitting: a token that no wrapped leaf below a range covers
stays as it is, and the tokens that a wrapped leaf covers lie in one of the ranges that the range is
split into.  So what is woven into a range comes from what is woven into the ranges below it
(`mended_weave`).
-/

namespace EscapeAudit

open Lexer

namespace Stream

/-! ## Leaves below a range -/

/-- Splitting a range again and again leads to a leaf. -/
inductive Under (s : Stream) : Range → Leaf → Prop where
  /-- The range is a leaf. -/
  | leaf {r : Range} {l : Leaf} : s.split r = .leaf l → Under s r l
  /-- A range that it is split into leads to the leaf. -/
  | child {r c : Range} {l : Leaf} : c ∈ (s.split r).children → Under s c l → Under s r l

theorem children_within {s : Stream} {r c : Range} (h : c ∈ (s.split r).children) :
    r.start ≤ c.start ∧ c.stop ≤ r.stop := by
  rcases split_cases s r with hsplit | ⟨first, last, hb, _, hsplit⟩ |
    ⟨then_, else_, hthen, helse, hsplit⟩ | hsplit | ⟨first, last, _, hsplit⟩
  all_goals rw [hsplit] at h
  · cases h
  · obtain rfl : c = ⟨first + 1, last⟩ := by simpa [Split.children] using h
    have := hb.start_le
    have := hb.last_lt
    exact ⟨by dsimp only; omega, by dsimp only; omega⟩
  · obtain ⟨hle, hlt, _⟩ := mem_inScope hthen
    obtain ⟨hle', hlt', _⟩ := mem_inScope helse
    dsimp only at hle' hlt'
    simp only [Split.children, List.mem_cons, List.not_mem_nil, or_false] at h
    rcases h with rfl | rfl
    · exact ⟨by dsimp only; omega, by dsimp only; omega⟩
    · exact ⟨by dsimp only; omega, Nat.le_refl _⟩
  · rw [Range.cutAt_eq_pieces] at h
    obtain ⟨hstart, hstop⟩ := Range.mem_pieces h
    have hcut : ∀ i ∈ s.inScope (· == .concat) r, r.start ≤ i ∧ i < r.stop := fun i hi =>
      ⟨(mem_inScope hi).1, (mem_inScope hi).2.1⟩
    refine ⟨?_, ?_⟩
    · rcases hstart with hstart | ⟨i, hi, hstart⟩
      · omega
      · have := hcut i (by simpa using hi)
        omega
    · rcases hstop with hstop | hi
      · omega
      · have := hcut _ (by simpa using hi)
        omega
  · cases h

theorem bounds_of_leaf {s : Stream} {r : Range} {l : Leaf} (h : s.split r = .leaf l) :
    s.Bounds r l.first l.last := by
  rcases split_cases s r with hsplit | ⟨_, _, _, _, hsplit⟩ | ⟨_, _, _, _, hsplit⟩ | hsplit |
    ⟨first, last, hb, hsplit⟩
  all_goals rw [h] at hsplit; cases hsplit
  exact hb

theorem Under.first_le {s : Stream} {r : Range} {l : Leaf} (h : s.Under r l) : l.first ≤ l.last := by
  induction h with
  | leaf h => exact (bounds_of_leaf h).first_le
  | child _ _ ih => exact ih

theorem Under.within {s : Stream} {r : Range} {l : Leaf} (h : s.Under r l) :
    r.start ≤ l.first ∧ l.last < r.stop := by
  induction h with
  | leaf h => exact ⟨(bounds_of_leaf h).start_le, (bounds_of_leaf h).last_lt⟩
  | child hc _ ih =>
    obtain ⟨hstart, hstop⟩ := children_within hc
    omega

theorem balanced_piece {s : Stream} {a : Nat} {ls : List Lexeme} (hlies : s.Lies a ls)
    (hb : Balanced ls) {p : Range}
    (hp : p ∈ Range.pieces a (a + ls.length) (outermost (· == .concat) 0 a ls)) :
    ∃ b ms, p = ⟨b, b + ms.length⟩ ∧ s.Lies b ms ∧ Balanced ms := by
  induction hn : ls.length using Nat.strongRecOn generalizing a ls with
  | _ n ih =>
    subst hn
    by_cases hconcat : Bare (· == .concat) ls
    · rw [outermost_eq_nil_iff.mpr hconcat] at hp
      exact ⟨a, ls, List.mem_singleton.mp hp, hlies, hb⟩
    · obtain ⟨q, d, rest, rfl, hq, hrest, _, hd, hbare⟩ := exists_first_outermost hb hconcat
      have hstop : a + (q ++ d :: rest).length = a + q.length + 1 + rest.length := by
        simp
        omega
      rw [outermost_link hq hbare (beq_iff_eq.mp hd), hstop] at hp
      rcases List.mem_cons.mp hp with rfl | hp
      · exact ⟨a, q, rfl, hlies.left, hq⟩
      · exact ih rest.length (by simp; omega) hlies.right.tail hrest hp rfl

/-- Balanced lexemes are split into balanced ones. -/
theorem balanced_child {s : Stream} {a : Nat} {ls : List Lexeme} (hlies : s.Lies a ls)
    (hb : Balanced ls) {c : Range} (hc : c ∈ (s.split ⟨a, a + ls.length⟩).children) :
    ∃ b ms, c = ⟨b, b + ms.length⟩ ∧ s.Lies b ms ∧ Balanced ms := by
  obtain ⟨outcome, hsplit⟩ : ∃ outcome, s.split ⟨a, a + ls.length⟩ = outcome := ⟨_, rfl⟩
  have hshape := shape_split hlies hb
  rw [hsplit] at hshape hc
  cases hshape with
  | blank => cases hc
  | pair _ _ hinner =>
    exact ⟨_, _, List.mem_singleton.mp hc, hlies.right.left.tail.left, hinner⟩
  | lone => cases hc
  | @ternary cond yes no q e _ _ hyes _ hno =>
    have hlies' : s.Lies (a + cond.length + 1) (yes ++ e :: no) := hlies.right.tail
    simp only [Split.children, List.mem_cons, List.not_mem_nil, or_false] at hc
    rcases hc with rfl | rfl
    · exact ⟨_, yes, rfl, hlies'.left, hyes⟩
    · exact ⟨_, no, rfl, hlies'.right.tail, hno⟩
  | chain => exact balanced_piece hlies hb hc
  | leaf => cases hc

/-- A leaf below balanced lexemes has its lexemes. -/
theorem Under.exists_isLeaf {s : Stream} {r : Range} {l : Leaf} (h : s.Under r l) {a : Nat}
    {ls : List Lexeme} (hr : r = ⟨a, a + ls.length⟩) (hlies : s.Lies a ls) (hb : Balanced ls) :
    ∃ b t core u, l = leafAt b t core u ∧ s.Lies b (t ++ (core ++ u)) ∧ IsLeaf t core u := by
  induction h generalizing a ls with
  | @leaf r l h =>
    subst hr
    have hshape := shape_split hlies hb
    rw [h] at hshape
    cases hshape with
    | leaf hleaf => exact ⟨a, _, _, _, rfl, hlies, hleaf⟩
  | child hc _ ih =>
    subst hr
    obtain ⟨b, ms, hms, hlies', hb'⟩ := balanced_child hlies hb hc
    exact ih hms hlies' hb'

/-- A leaf below a range that is to be wrapped covers a token. -/
def Covered (s : Stream) (wraps : Leaf → EscapeFunction → Prop) (r : Range) (i : Nat) : Prop :=
  ∃ l f, s.Under r l ∧ wraps l f ∧ l.first ≤ i ∧ i ≤ l.last

section Covered

variable {s : Stream} {wraps : Leaf → EscapeFunction → Prop} {r : Range} {i : Nat}

theorem Covered.within (h : s.Covered wraps r i) : r.start ≤ i ∧ i < r.stop := by
  obtain ⟨l, f, hl, _, hfirst, hlast⟩ := h
  obtain ⟨hstart, hstop⟩ := hl.within
  omega

theorem Covered.child {outcome : Split} (h : s.split r = outcome) (hleaf : ∀ l, outcome ≠ .leaf l)
    (hi : s.Covered wraps r i) : ∃ c ∈ outcome.children, s.Covered wraps c i := by
  obtain ⟨l, f, hl, hwraps⟩ := hi
  rw [← h] at hleaf ⊢
  cases hl with
  | leaf hl => exact absurd hl (hleaf l)
  | child hc hl => exact ⟨_, hc, l, f, hl, hwraps⟩

theorem Covered.leaf {l : Leaf} (h : s.split r = .leaf l) (hi : s.Covered wraps r i) :
    ∃ f, wraps l f ∧ l.first ≤ i ∧ i ≤ l.last := by
  obtain ⟨m, f, hm, hwraps⟩ := hi
  cases hm with
  | leaf hleaf =>
    rw [h] at hleaf
    cases hleaf
    exact ⟨f, hwraps⟩
  | child hc => rw [h] at hc; cases hc

end Covered

/-! ## Weaving mends -/

theorem weave_eq_self {chunk : Nat → Lexeme → List Lexeme} {a : Nat} {ls : List Lexeme}
    (h : ∀ i, a ≤ i → i < a + ls.length → ∀ x, chunk i x = [x]) : weave chunk a ls = ls := by
  induction ls generalizing a with
  | nil => rfl
  | cons l ls ih =>
    rw [weave, h a (Nat.le_refl a) (by simp), List.singleton_append]
    congr 1
    exact ih fun i hi hlt => h i (by omega) (by simp only [List.length_cons]; omega)

theorem mem_outermost {test : Kind → Bool} {d i j : Nat} {ls : List Lexeme}
    (h : j ∈ outermost test d i ls) : i ≤ j := by
  induction ls generalizing d i with
  | nil => cases h
  | cons l ls ih =>
    rw [outermost] at h
    split at h
    · have := ih h
      omega
    · have := ih h
      omega
    · rcases List.mem_append.mp h with h | h
      · split at h
        · exact Nat.le_of_eq (List.mem_singleton.mp h).symm
        · cases h
      · have := ih h
        omega

/-- In an interval of tokens, one that no leaf covers stays. -/
def Quiet (s : Stream) (wraps : Leaf → EscapeFunction → Prop)
    (chunk : Nat → Lexeme → List Lexeme) (rs : List Range) (a stop : Nat) : Prop :=
  ∀ i, a ≤ i → i < stop → (∀ r ∈ rs, ¬ s.Covered wraps r i) → ∀ x, chunk i x = [x]

/-- Weaving mends lexemes, as a whole and as what is left of a concatenation. -/
structure Mends (s : Stream) (wraps : Leaf → EscapeFunction → Prop)
    (chunk : Nat → Lexeme → List Lexeme) (a : Nat) (ls : List Lexeme) : Prop where
  whole : s.Quiet wraps chunk [⟨a, a + ls.length⟩] a (a + ls.length) →
    Mended wraps false a ls (weave chunk a ls)
  chain : s.Quiet wraps chunk
      (Range.pieces a (a + ls.length) (outermost (· == .concat) 0 a ls)) a (a + ls.length) →
    Mended wraps true a ls (weave chunk a ls)

section Mends

variable {s : Stream} {wraps : Leaf → EscapeFunction → Prop}
  {chunk : Nat → Lexeme → List Lexeme} {a : Nat}

/-- What no leaf below a range covers, no leaf below its children covers. -/
theorem Quiet.children {r : Range} {stop : Nat} {outcome : Split}
    (hquiet : s.Quiet wraps chunk [r] a stop) (h : s.split r = outcome)
    (hleaf : ∀ l, outcome ≠ .leaf l) : s.Quiet wraps chunk outcome.children a stop := by
  intro i hi hlt hnot
  refine hquiet i hi hlt fun r' hr' hcovered => ?_
  rw [List.mem_singleton.mp hr'] at hcovered
  obtain ⟨c, hc, hchild⟩ := hcovered.child h hleaf
  exact hnot c hc hchild

/-- Where nothing is below a range, nothing is woven in. -/
theorem Quiet.weave_eq_self {ls : List Lexeme} {r : Range}
    (hquiet : s.Quiet wraps chunk [r] a (a + ls.length)) (h : s.split r = .skip) :
    weave chunk a ls = ls :=
  Stream.weave_eq_self fun i hi hlt => hquiet.children h (by simp) i hi hlt (by simp [Split.children])

theorem Quiet.pair {t u inner : List Lexeme} {o c : Lexeme} {stop : Nat}
    (hquiet : s.Quiet wraps chunk [⟨a, stop⟩] a stop)
    (hstop : stop = a + (t ++ (o :: (inner ++ [c]) ++ u)).length)
    (hsplit : s.split ⟨a, stop⟩ =
      .unwrapped ⟨a + t.length + 1, a + t.length + 1 + inner.length⟩) :
    s.Quiet wraps chunk [⟨a + t.length + 1, a + t.length + 1 + inner.length⟩] (a + t.length + 1)
        (a + t.length + 1 + inner.length) ∧
      weave chunk a (t ++ (o :: (inner ++ [c]) ++ u)) =
        t ++ (o :: (weave chunk (a + t.length + 1) inner ++ [c]) ++ u) := by
  simp only [List.length_append, List.length_cons, List.length_nil] at hstop
  have houter := hquiet.children hsplit (by simp)
  have hoff : ∀ i, a ≤ i → i < stop →
      i < a + t.length + 1 ∨ a + t.length + 1 + inner.length ≤ i → ∀ x, chunk i x = [x] := by
    intro i hi hlt hside
    refine houter i hi hlt fun r hr hcovered => ?_
    rw [List.mem_singleton.mp hr] at hcovered
    have := hcovered.within
    dsimp only at this
    omega
  refine ⟨fun i hi hlt => houter i (by omega) (by omega), ?_⟩
  have ht : weave chunk a t = t := Stream.weave_eq_self fun i hi hlt => hoff i hi (by omega) (by omega)
  have hu : weave chunk (a + t.length + 1 + inner.length + 1) u = u :=
    Stream.weave_eq_self fun i hi hlt => hoff i (by omega) (by omega) (by omega)
  have ho : chunk (a + t.length) o = [o] := hoff _ (by omega) (by omega) (by omega) o
  have hc : chunk (a + t.length + 1 + inner.length) c = [c] :=
    hoff _ (by omega) (by omega) (by omega) c
  have hflat : t ++ (o :: (inner ++ [c]) ++ u) = t ++ o :: (inner ++ c :: u) := by simp
  rw [hflat, weave_append, ht, weave, ho, weave_append, weave, hc, hu]
  simp

theorem Quiet.ternary {cond yes no : List Lexeme} {q e : Lexeme} {stop : Nat}
    (hquiet : s.Quiet wraps chunk [⟨a, stop⟩] a stop)
    (hstop : stop = a + (cond ++ q :: (yes ++ e :: no)).length)
    (hsplit : s.split ⟨a, stop⟩ =
      .pieces [⟨a + cond.length + 1, a + cond.length + 1 + yes.length⟩,
        ⟨a + cond.length + 1 + yes.length + 1, a + cond.length + 1 + yes.length + 1 + no.length⟩]) :
    s.Quiet wraps chunk [⟨a + cond.length + 1, a + cond.length + 1 + yes.length⟩]
        (a + cond.length + 1) (a + cond.length + 1 + yes.length) ∧
      s.Quiet wraps chunk [⟨a + cond.length + 1 + yes.length + 1,
          a + cond.length + 1 + yes.length + 1 + no.length⟩]
        (a + cond.length + 1 + yes.length + 1)
        (a + cond.length + 1 + yes.length + 1 + no.length) ∧
      weave chunk a (cond ++ q :: (yes ++ e :: no)) =
        cond ++ q :: (weave chunk (a + cond.length + 1) yes ++
          e :: weave chunk (a + cond.length + 1 + yes.length + 1) no) := by
  simp only [List.length_append, List.length_cons] at hstop
  have houter : ∀ i, a ≤ i → i < stop →
      ¬ s.Covered wraps ⟨a + cond.length + 1, a + cond.length + 1 + yes.length⟩ i →
      ¬ s.Covered wraps ⟨a + cond.length + 1 + yes.length + 1,
        a + cond.length + 1 + yes.length + 1 + no.length⟩ i → ∀ x, chunk i x = [x] := by
    intro i hi hlt hyes hno
    refine hquiet.children hsplit (by simp) i hi hlt fun r hr => ?_
    simp only [Split.children, List.mem_cons, List.not_mem_nil, or_false] at hr
    rcases hr with rfl | rfl
    · exact hyes
    · exact hno
  have hyes : ∀ i, ¬ (a + cond.length + 1 ≤ i ∧ i < a + cond.length + 1 + yes.length) →
      ¬ s.Covered wraps ⟨a + cond.length + 1, a + cond.length + 1 + yes.length⟩ i :=
    fun i hi hcovered => hi hcovered.within
  have hno : ∀ i, ¬ (a + cond.length + 1 + yes.length + 1 ≤ i ∧
      i < a + cond.length + 1 + yes.length + 1 + no.length) →
      ¬ s.Covered wraps ⟨a + cond.length + 1 + yes.length + 1,
        a + cond.length + 1 + yes.length + 1 + no.length⟩ i :=
    fun i hi hcovered => hi hcovered.within
  refine ⟨fun i hi hlt hnot => ?_, fun i hi hlt hnot => ?_, ?_⟩
  · exact houter i (by omega) (by omega) (hnot _ (by simp)) (hno i (by omega))
  · exact houter i (by omega) (by omega) (hyes i (by omega)) (hnot _ (by simp))
  · have hcond : weave chunk a cond = cond := Stream.weave_eq_self fun i hi hlt =>
      houter i hi (by omega) (hyes i (by omega)) (hno i (by omega))
    have hq : chunk (a + cond.length) q = [q] :=
      houter _ (by omega) (by omega) (hyes _ (by omega)) (hno _ (by omega)) q
    have he : chunk (a + cond.length + 1 + yes.length) e = [e] :=
      houter _ (by omega) (by omega) (hyes _ (by omega)) (hno _ (by omega)) e
    rw [weave_append, hcond, weave, hq, weave_append, weave, he]
    simp

theorem Quiet.link {p rest : List Lexeme} {d : Lexeme} {cuts : List Nat} {stop : Nat}
    (hquiet : s.Quiet wraps chunk
      (⟨a, a + p.length⟩ :: Range.pieces (a + p.length + 1) stop cuts) a stop)
    (hstop : stop = a + p.length + 1 + rest.length) (hcuts : ∀ i ∈ cuts, a + p.length + 1 ≤ i) :
    s.Quiet wraps chunk [⟨a, a + p.length⟩] a (a + p.length) ∧
      s.Quiet wraps chunk (Range.pieces (a + p.length + 1) stop cuts) (a + p.length + 1) stop ∧
      weave chunk a (p ++ d :: rest) =
        weave chunk a p ++ d :: weave chunk (a + p.length + 1) rest := by
  have hhead : ∀ i, a + p.length ≤ i → ¬ s.Covered wraps ⟨a, a + p.length⟩ i := by
    intro i hi hcovered
    have := hcovered.within
    dsimp only at this
    omega
  have htail : ∀ i, i ≤ a + p.length →
      ∀ r ∈ Range.pieces (a + p.length + 1) stop cuts, ¬ s.Covered wraps r i := by
    intro i hi r hr hcovered
    have hstart := hcovered.within.1
    rcases (Range.mem_pieces hr).1 with heq | ⟨c, hc, heq⟩
    · omega
    · have := hcuts c hc
      omega
  refine ⟨fun i hi hlt hnot => ?_, fun i hi hlt hnot => ?_, ?_⟩
  · refine hquiet i hi (by omega) fun r hr => ?_
    rcases List.mem_cons.mp hr with rfl | hr
    · exact hnot _ (by simp)
    · exact htail i (by omega) r hr
  · refine hquiet i (by omega) hlt fun r hr => ?_
    rcases List.mem_cons.mp hr with rfl | hr
    · exact hhead i (by omega)
    · exact hnot r hr
  · have hd : chunk (a + p.length) d = [d] := by
      refine hquiet _ (by omega) (by omega) (fun r hr => ?_) d
      rcases List.mem_cons.mp hr with rfl | hr
      · exact hhead _ (Nat.le_refl _)
      · exact htail _ (Nat.le_refl _) r hr
    rw [weave_append, weave, hd]
    rfl

/-- The lexemes of a leaf that is to be wrapped are woven into a call around them. -/
def WeavesCalls (s : Stream) (wraps : Leaf → EscapeFunction → Prop)
    (chunk : Nat → Lexeme → List Lexeme) : Prop :=
  ∀ (b : Nat) (t core u : List Lexeme) (f : EscapeFunction), wraps (leafAt b t core u) f →
    s.Lies b (t ++ (core ++ u)) → IsLeaf t core u →
    Wrapped f core (weave chunk (b + t.length) core)

theorem mended_leaf (hcalls : s.WeavesCalls wraps chunk) {t core u : List Lexeme}
    (hleaf : IsLeaf t core u) (hlies : s.Lies a (t ++ (core ++ u)))
    (hquiet : s.Quiet wraps chunk [⟨a, a + (t ++ (core ++ u)).length⟩] a
      (a + (t ++ (core ++ u)).length)) :
    Mended wraps false a (t ++ (core ++ u)) (weave chunk a (t ++ (core ++ u))) := by
  have hsplit := split_leaf hleaf hlies
  have hpos := hleaf.solid.length_pos
  have hoff : ∀ i, a ≤ i → i < a + (t ++ (core ++ u)).length →
      (∀ f, wraps (leafAt a t core u) f → i < a + t.length ∨ a + t.length + core.length ≤ i) →
      ∀ x, chunk i x = [x] := by
    intro i hi hlt hside
    refine hquiet i hi hlt fun r hr => ?_
    rw [List.mem_singleton.mp hr]
    intro hcovered
    obtain ⟨f, hf, hfirst, hlast⟩ := hcovered.leaf hsplit
    have := hside f hf
    simp only [leafAt] at hfirst hlast
    omega
  simp only [List.length_append] at hoff
  by_cases hsome : ∃ f, wraps (leafAt a t core u) f
  · obtain ⟨f, hf⟩ := hsome
    have htw : weave chunk a t = t :=
      weave_eq_self fun i hi hlt => hoff i hi (by omega) fun _ _ => .inl hlt
    have huw : weave chunk (a + t.length + core.length) u = u :=
      weave_eq_self fun i hi hlt => hoff i (by omega) (by omega) fun _ _ => .inr hi
    rw [weave_append, htw, weave_append, huw]
    exact .wrapped hleaf hf (hcalls a t core u f hf hlies hleaf)
  · have hall : weave chunk a (t ++ (core ++ u)) = t ++ (core ++ u) := by
      refine weave_eq_self fun i hi hlt => hoff i hi ?_ fun f hf => absurd ⟨f, hf⟩ hsome
      simpa using hlt
    rw [hall]
    exact .kept hleaf fun f hf => hsome ⟨f, hf⟩

theorem mended_link {p rest : List Lexeme} {d : Lexeme} (hp : Balanced p)
    (hbare : Bare (· == .concat) p) (hd : d.kind = .concat) (hrest : Balanced rest)
    (ihp : s.Mends wraps chunk a p) (ihrest : s.Mends wraps chunk (a + p.length + 1) rest)
    (hquiet : s.Quiet wraps chunk (Range.pieces a (a + (p ++ d :: rest).length)
      (outermost (· == .concat) 0 a (p ++ d :: rest))) a (a + (p ++ d :: rest).length)) :
    Mended wraps true a (p ++ d :: rest) (weave chunk a (p ++ d :: rest)) := by
  have hstop : a + (p ++ d :: rest).length = a + p.length + 1 + rest.length := by
    simp
    omega
  rw [outermost_link hp hbare hd, hstop] at hquiet
  obtain ⟨hquiet, hquiet', hweave⟩ := Quiet.link (d := d) hquiet rfl fun i hi => mem_outermost hi
  rw [hweave]
  exact .link hp hbare hd hrest (ihp.whole hquiet) (ihrest.chain hquiet')

/-- Weaving mends balanced lexemes. -/
theorem mended_weave (hcalls : s.WeavesCalls wraps chunk) {ls : List Lexeme} (hlies : s.Lies a ls)
    (hb : Balanced ls) : s.Mends wraps chunk a ls := by
  induction hn : ls.length using Nat.strongRecOn generalizing a ls with
  | _ n ih =>
    subst hn
    have hchain : ¬ Bare (· == .concat) ls →
        s.Quiet wraps chunk (Range.pieces a (a + ls.length) (outermost (· == .concat) 0 a ls)) a
          (a + ls.length) → Mended wraps true a ls (weave chunk a ls) := by
      intro hconcat hquiet
      obtain ⟨p, d, rest, rfl, hp, hrest, _, hd, hbare⟩ := exists_first_outermost hb hconcat
      have hd : d.kind = .concat := beq_iff_eq.mp hd
      exact mended_link hp hbare hd hrest (ih _ (by simp) hlies.left hp rfl)
        (ih _ (by simp; omega) hlies.right.tail hrest rfl) hquiet
    have hwhole : s.Quiet wraps chunk [⟨a, a + ls.length⟩] a (a + ls.length) →
        Mended wraps false a ls (weave chunk a ls) := by
      intro hquiet
      obtain ⟨outcome, hsplit⟩ : ∃ outcome, s.split ⟨a, a + ls.length⟩ = outcome := ⟨_, rfl⟩
      have hshape := shape_split hlies hb
      rw [hsplit] at hshape
      cases hshape with
      | blank hblank =>
        rw [hquiet.weave_eq_self hsplit]
        exact .blank hblank
      | pair ho hc hinner ht hu =>
        obtain ⟨hquiet', hweave⟩ := hquiet.pair rfl hsplit
        rw [hweave]
        exact .pair ho hc hinner ht hu
          ((ih _ (by simp; omega) hlies.right.left.tail.left hinner rfl).whole hquiet')
      | lone hcond hq hrest hlast helse =>
        rw [hquiet.weave_eq_self hsplit]
        exact .lone hcond hq hrest hlast helse
      | @ternary cond yes no q e hcond hq hyes he hno hyesbare hnobare hfirst =>
        obtain ⟨hquiet', hquiet'', hweave⟩ := hquiet.ternary rfl hsplit
        have hlies' : s.Lies (a + cond.length + 1) (yes ++ e :: no) := hlies.right.tail
        rw [hweave]
        exact .ternary hcond hq hyes he hno hyesbare hnobare hfirst
          ((ih _ (by simp; omega) hlies'.left hyes rfl).whole hquiet')
          ((ih _ (by simp; omega) hlies'.right.tail hno rfl).whole hquiet'')
      | chain _ hthen hconcat =>
        exact .chain hb hthen hconcat (hchain hconcat (hquiet.children hsplit (by simp)))
      | leaf hleaf => exact mended_leaf hcalls hleaf hlies hquiet
    refine ⟨hwhole, fun hquiet => ?_⟩
    by_cases hconcat : Bare (· == .concat) ls
    · rw [outermost_eq_nil_iff.mpr hconcat] at hquiet
      exact .piece hb hconcat (hwhole hquiet)
    · exact hchain hconcat hquiet

end Mends

end Stream

end EscapeAudit
