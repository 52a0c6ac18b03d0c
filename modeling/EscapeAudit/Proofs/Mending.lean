import Mathlib.Data.List.Forall2
import EscapeAudit.Proofs.Judgement

/-!
# Mended lexemes

The lexemes of a statement are mended where calls of the escaper are put around some of its leaves.
`Mended` says so along the splitting of the statement, one rule for each outcome.  What is mended
stays balanced, and no operator becomes outermost that was not so before (`Mended.bare`).  So mended
lexemes are split as those they come from, and each leaf comes from a leaf (`Mended.tree`).
-/

namespace EscapeAudit

namespace Stream

/-! ## One tree of outcomes -/

/-- Two ranges of two streams are split into the same tree of outcomes, and their leaves are
related. -/
inductive SameTree (s s' : Stream) (settles : Leaf → Leaf → Prop) : Range → Range → Prop where
  /-- Both give nothing. -/
  | skip {r r' : Range} : s.split r = .skip → s'.split r' = .skip → SameTree s s' settles r r'
  /-- Both are pairs of parentheses, and their insides are alike. -/
  | unwrapped {r r' i i' : Range} : s.split r = .unwrapped i → s'.split r' = .unwrapped i' →
    SameTree s s' settles i i' → SameTree s s' settles r r'
  /-- Both give pieces, which are alike one by one. -/
  | pieces {r r' : Range} {ps ps' : List Range} : s.split r = .pieces ps →
    s'.split r' = .pieces ps' → List.Forall₂ (SameTree s s' settles) ps ps' →
    SameTree s s' settles r r'
  /-- Both are leaves. -/
  | leaf {r r' : Range} {l l' : Leaf} : s.split r = .leaf l → s'.split r' = .leaf l' →
    settles l l' → SameTree s s' settles r r'

/-! ## Mending -/

/-- Lexemes from an index on, and the same lexemes with calls of the escaper around the leaves that
are to be wrapped.  The flag says that the lexemes are what is left of a concatenation. -/
inductive Mended (wraps : Leaf → EscapeFunction → Prop) :
    (chain : Bool) → Nat → List Lexeme → List Lexeme → Prop where
  /-- Blanks and comments. -/
  | blank {a : Nat} {ls : List Lexeme} : Blank ls → Mended wraps false a ls ls
  /-- A pair of parentheses. -/
  | pair {a : Nat} {t u inner inner' : List Lexeme} {o c : Lexeme} : o.kind = .openParenthesis →
    c.kind = .closeParenthesis → Balanced inner → Blank t → Blank u →
    Mended wraps false (a + t.length + 1) inner inner' →
    Mended wraps false a (t ++ (o :: (inner ++ [c]) ++ u)) (t ++ (o :: (inner' ++ [c]) ++ u))
  /-- A ternary without `:`. -/
  | lone {a : Nat} {cond rest : List Lexeme} {q : Lexeme} : Balanced cond → q.kind = .inlineThen →
    Balanced rest → Bare (· == .inlineThen) rest → Bare (· == .inlineElse) rest →
    Mended wraps false a (cond ++ q :: rest) (cond ++ q :: rest)
  /-- A ternary. -/
  | ternary {a : Nat} {cond yes no yes' no' : List Lexeme} {q e : Lexeme} : Balanced cond →
    q.kind = .inlineThen → Balanced yes → e.kind = .inlineElse → Balanced no →
    Bare (· == .inlineThen) yes → Bare (· == .inlineThen) no → Bare (· == .inlineElse) yes →
    Mended wraps false (a + cond.length + 1) yes yes' →
    Mended wraps false (a + cond.length + 1 + yes.length + 1) no no' →
    Mended wraps false a (cond ++ q :: (yes ++ e :: no)) (cond ++ q :: (yes' ++ e :: no'))
  /-- A concatenation. -/
  | chain {a : Nat} {ls ls' : List Lexeme} : Balanced ls → Bare (· == .inlineThen) ls →
    ¬ Bare (· == .concat) ls → Mended wraps true a ls ls' → Mended wraps false a ls ls'
  /-- A leaf that stays. -/
  | kept {a : Nat} {t core u : List Lexeme} : IsLeaf t core u →
    (∀ f, ¬ wraps (leafAt a t core u) f) →
    Mended wraps false a (t ++ (core ++ u)) (t ++ (core ++ u))
  /-- A leaf that is wrapped. -/
  | wrapped {a : Nat} {t core u w : List Lexeme} {f : EscapeFunction} : IsLeaf t core u →
    wraps (leafAt a t core u) f → Wrapped f core w →
    Mended wraps false a (t ++ (core ++ u)) (t ++ (w ++ u))
  /-- The last piece of a concatenation. -/
  | piece {a : Nat} {ls ls' : List Lexeme} : Balanced ls → Bare (· == .concat) ls →
    Mended wraps false a ls ls' → Mended wraps true a ls ls'
  /-- A piece of a concatenation and the pieces behind it. -/
  | link {a : Nat} {p p' rest rest' : List Lexeme} {d : Lexeme} : Balanced p →
    Bare (· == .concat) p → d.kind = .concat → Balanced rest → Mended wraps false a p p' →
    Mended wraps true (a + p.length + 1) rest rest' →
    Mended wraps true a (p ++ d :: rest) (p' ++ d :: rest')

namespace Mended

variable {wraps : Leaf → EscapeFunction → Prop} {chain : Bool} {a : Nat} {ls ls' : List Lexeme}

theorem balanced (h : Mended wraps chain a ls ls') : Balanced ls' := by
  induction h with
  | blank h => exact h.balanced
  | pair ho hc _ ht hu _ ih =>
    exact ht.balanced.append ((Balanced.group ho hc ih).append hu.balanced)
  | lone hcond hq hrest => exact hcond.append ((Balanced.flat (by rw [hq]; rfl)).mpr hrest)
  | ternary hcond hq _ he _ _ _ _ _ _ ihyes ihno =>
    exact hcond.append ((Balanced.flat (by rw [hq]; rfl)).mpr
      (ihyes.append ((Balanced.flat (by rw [he]; rfl)).mpr ihno)))
  | chain _ _ _ _ ih => exact ih
  | kept h => exact h.before.balanced.append (h.balanced.append h.after.balanced)
  | wrapped h _ hw =>
    exact h.before.balanced.append ((hw.balanced h.balanced).append h.after.balanced)
  | piece _ _ _ ih => exact ih
  | link _ _ hd _ _ _ ihp ihrest =>
    exact ihp.append ((Balanced.flat (by rw [hd]; rfl)).mpr ihrest)

/-- An operator that is outermost in mended lexemes was so before. -/
theorem bare {test : Kind → Bool} (h : Mended wraps chain a ls ls') (hvariable : test .variable = false)
    (hoperator : test .objectOperator = false) (hidentifier : test .identifier = false)
    (hcast : test .cast = false) (hbare : Bare test ls) : Bare test ls' := by
  induction h with
  | blank => exact hbare
  | @pair a t u inner inner' o c ho hc hinner ht hu h ih =>
    obtain ⟨htbare, hrest⟩ := (Bare.append_iff ht.balanced).mp hbare
    refine (Bare.append_iff ht.balanced).mpr ⟨htbare, ?_⟩
    obtain ⟨_, hubare⟩ := (Bare.append_iff (Balanced.group ho hc hinner)).mp hrest
    exact (Bare.append_iff (Balanced.group ho hc h.balanced)).mpr
      ⟨(Bare.group_iff ho hc h.balanced).mpr rfl, hubare⟩
  | lone => exact hbare
  | @ternary a cond yes no yes' no' q e hcond hq hyes he _ _ _ _ h _ ihyes ihno =>
    have hqflat : isFlat q.kind = true := by rw [hq]; rfl
    have heflat : isFlat e.kind = true := by rw [he]; rfl
    obtain ⟨hcondbare, hrest⟩ := (Bare.append_iff hcond).mp hbare
    obtain ⟨hqbare, hrest⟩ := (Bare.flat_iff hqflat).mp hrest
    obtain ⟨hyesbare, hrest⟩ := (Bare.append_iff hyes).mp hrest
    obtain ⟨hebare, hnobare⟩ := (Bare.flat_iff heflat).mp hrest
    exact (Bare.append_iff hcond).mpr ⟨hcondbare, (Bare.flat_iff hqflat).mpr ⟨hqbare,
      (Bare.append_iff h.balanced).mpr ⟨ihyes hyesbare,
        (Bare.flat_iff heflat).mpr ⟨hebare, ihno hnobare⟩⟩⟩⟩
  | chain _ _ _ _ ih => exact ih hbare
  | kept => exact hbare
  | @wrapped a t core u w f h _ hw =>
    obtain ⟨htbare, hrest⟩ := (Bare.append_iff h.before.balanced).mp hbare
    obtain ⟨_, hubare⟩ := (Bare.append_iff h.balanced).mp hrest
    exact (Bare.append_iff h.before.balanced).mpr
      ⟨htbare, (Bare.append_iff (hw.balanced h.balanced)).mpr
        ⟨hw.bare h.balanced hvariable hoperator hidentifier hcast, hubare⟩⟩
  | piece _ _ _ ih => exact ih hbare
  | @link a p p' rest rest' d hp _ hd _ h _ ihp ihrest =>
    have hdflat : isFlat d.kind = true := by rw [hd]; rfl
    obtain ⟨hpbare, hrest⟩ := (Bare.append_iff hp).mp hbare
    obtain ⟨hdbare, hrestbare⟩ := (Bare.flat_iff hdflat).mp hrest
    exact (Bare.append_iff h.balanced).mpr
      ⟨ihp hpbare, (Bare.flat_iff hdflat).mpr ⟨hdbare, ihrest hrestbare⟩⟩

/-- A concatenation stays one. -/
theorem not_bare (h : Mended wraps true a ls ls') (hnot : ¬ Bare (· == .concat) ls) :
    ¬ Bare (· == .concat) ls' := by
  cases h with
  | piece _ hbare => exact absurd hbare hnot
  | @link _ p p' rest rest' d hp _ hd _ h =>
    intro hbare
    have hdflat : isFlat d.kind = true := by rw [hd]; rfl
    obtain ⟨_, hrest⟩ := (Bare.append_iff h.balanced).mp hbare
    have hconcat := ((Bare.flat_iff hdflat).mp hrest).1
    rw [hd] at hconcat
    cases hconcat

/-- The verdict on a leaf of mended lexemes.  One that was wrapped is escaped already, and any other
one is judged as before. -/
def Settles (s s' : Stream) (wraps : Leaf → EscapeFunction → Prop) (l l' : Leaf) : Prop :=
  (∀ f, wraps l f → s'.judge .standard l' = .safe .alreadyEscaped) ∧
    ((∀ f, ¬ wraps l f) → (s.judge .standard l).Agrees (s'.judge .standard l'))

/-- Mended lexemes are split into the same tree as those they come from. -/
theorem tree (h : Mended wraps chain a ls ls') {s s' : Stream} {a' : Nat} (hs : s.Lies a ls)
    (hs' : s'.Lies a' ls') :
    (chain = false → SameTree s s' (Settles s s' wraps) ⟨a, a + ls.length⟩
      ⟨a', a' + ls'.length⟩) ∧
    (chain = true → List.Forall₂ (SameTree s s' (Settles s s' wraps))
      (Range.pieces a (a + ls.length) (outermost (· == .concat) 0 a ls))
      (Range.pieces a' (a' + ls'.length) (outermost (· == .concat) 0 a' ls'))) := by
  induction h generalizing a' with
  | blank h =>
    refine ⟨fun _ => .skip (split_blank hs h) (split_blank hs' h), fun h => by cases h⟩
  | @pair a t u inner inner' o c ho hc hinner ht hu h ih =>
    refine ⟨fun _ => ?_, fun h => by cases h⟩
    have hs₁ : s.Lies (a + t.length + 1) inner := hs.right.left.tail.left
    have hs₂ : s'.Lies (a' + t.length + 1) inner' := hs'.right.left.tail.left
    exact .unwrapped (split_pair ho hc hinner ht hu hs) (split_pair ho hc h.balanced ht hu hs')
      ((ih hs₁ hs₂).1 rfl)
  | lone hcond hq hrest hlast helse =>
    exact ⟨fun _ => .skip (split_lone hcond hq hrest hlast helse hs)
      (split_lone hcond hq hrest hlast helse hs'), fun h => by cases h⟩
  | @ternary a cond yes no yes' no' q e hcond hq hyes he hno hthen hthen' helse h h' ihyes ihno =>
    refine ⟨fun _ => ?_, fun h => by cases h⟩
    have heflat : isFlat e.kind = true := by rw [he]; rfl
    have hebare : (e.kind == .inlineThen) = false := by rw [he]; rfl
    have hlast : Bare (· == .inlineThen) (yes ++ e :: no) :=
      (Bare.append_iff hyes).mpr ⟨hthen, (Bare.flat_iff heflat).mpr ⟨hebare, hthen'⟩⟩
    have hlast' : Bare (· == .inlineThen) (yes' ++ e :: no') :=
      (Bare.append_iff h.balanced).mpr ⟨h.bare rfl rfl rfl rfl hthen,
        (Bare.flat_iff heflat).mpr ⟨hebare, h'.bare rfl rfl rfl rfl hthen'⟩⟩
    have hs₁ : s.Lies (a + cond.length + 1) (yes ++ e :: no) := hs.right.tail
    have hs₂ : s'.Lies (a' + cond.length + 1) (yes' ++ e :: no') := hs'.right.tail
    exact .pieces (split_ternary hcond hq hyes he hno hlast helse hs)
      (split_ternary hcond hq h.balanced he h'.balanced hlast' (h.bare rfl rfl rfl rfl helse) hs')
      (.cons ((ihyes hs₁.left hs₂.left).1 rfl)
        (.cons ((ihno hs₁.right.tail hs₂.right.tail).1 rfl) .nil))
  | @chain a ls ls' hb hthen hconcat h ih =>
    refine ⟨fun _ => ?_, fun h => by cases h⟩
    exact .pieces (split_chain hs hb hthen hconcat)
      (split_chain hs' h.balanced (h.bare rfl rfl rfl rfl hthen) (h.not_bare hconcat))
      ((ih hs hs').2 rfl)
  | kept hleaf hnot =>
    refine ⟨fun _ => .leaf (split_leaf hleaf hs) (split_leaf hleaf hs') ?_, fun h => by cases h⟩
    exact ⟨fun f hf => absurd hf (hnot f), fun _ => judge_moved hleaf hs hs'⟩
  | wrapped hleaf hf hw =>
    refine ⟨fun _ => .leaf (split_leaf hleaf hs) (split_leaf (hw.isLeaf hleaf) hs') ?_,
      fun h => by cases h⟩
    exact ⟨fun _ _ => judge_escaperCall hw hleaf hs', fun hnone => absurd hf (hnone _)⟩
  | @piece a ls ls' hb hbare h ih =>
    refine ⟨fun h => (by cases h), fun _ => ?_⟩
    rw [outermost_eq_nil_iff.mpr hbare,
      outermost_eq_nil_iff.mpr (h.bare rfl rfl rfl rfl hbare)]
    exact .cons ((ih hs hs').1 rfl) .nil
  | @link a p p' rest rest' d hp hbare hd hrest h h' ihp ihrest =>
    refine ⟨fun h => (by cases h), fun _ => ?_⟩
    rw [outermost_link hp hbare hd, outermost_link h.balanced (h.bare rfl rfl rfl rfl hbare) hd]
    have hstop : ∀ (b : Nat) (ls ms : List Lexeme), b + (ls ++ d :: ms).length =
        b + ls.length + 1 + ms.length := by
      intro b ls ms
      simp
      omega
    rw [hstop, hstop]
    exact .cons ((ihp hs.left hs'.left).1 rfl) ((ihrest hs.right.tail hs'.right.tail).2 rfl)

end Mended

end Stream

end EscapeAudit
