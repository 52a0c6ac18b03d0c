import EscapeAudit.Proofs.Anchors
import EscapeAudit.Proofs.Statements

/-!
# Nested brackets

Tokens are nested when every round, square and curly bracket and every `?` of a ternary has its
closing one and they do not cross.  A stack of open brackets goes along with the tokens
(`nestAfter`).  A pair of round brackets leaves the stack as it is, and its inside is nested
(`nestAfter_group`).

Splitting looks at round brackets only.  A part of a range that is nested is nested where the
operators that separate it from the rest stand outside all brackets of the range (`nests_child`).  So
a leaf is nested where this holds on the way to it (`CutOutside.nests`), and then what a call of the
escaper is put around is nested (`wraps_nested`).
-/

namespace EscapeAudit

open Lexer

/-- The kinds of brackets. -/
inductive Bracket where
  /-- `(` and `)`. -/
  | round
  /-- `[` and `]`. -/
  | square
  /-- Braces. -/
  | curly
  /-- `?` and `:`. -/
  | ternary
  deriving DecidableEq, Repr

namespace Bracket

/-- The bracket that a kind opens. -/
def opening? : Kind → Option Bracket
  | .openParenthesis => some round
  | .openSquareBracket => some square
  | .openCurlyBracket => some curly
  | .inlineThen => some ternary
  | _ => none

/-- The bracket that a kind closes. -/
def closing? : Kind → Option Bracket
  | .closeParenthesis => some round
  | .closeSquareBracket => some square
  | .closeCurlyBracket => some curly
  | .inlineElse => some ternary
  | _ => none

end Bracket

namespace Stream

/-! ## A stack of brackets -/

/-- The open brackets behind a token, last first, if it closes the last one or none at all. -/
def nestStep (stack : List Bracket) (k : Kind) : Option (List Bracket) :=
  match Bracket.opening? k, Bracket.closing? k, stack with
  | some b, _, stack => some (b :: stack)
  | none, some b, b' :: stack => if b = b' then some stack else none
  | none, some _, [] => none
  | none, none, stack => if k = .closeTag then none else some stack

/-- The open brackets behind lexemes. -/
def nestAfter (stack : List Bracket) : List Lexeme → Option (List Bracket)
  | [] => some stack
  | l :: ls => (nestStep stack l.kind).bind fun st => nestAfter st ls

/-- Every bracket has its other one, and they do not cross. -/
def Nested (ls : List Lexeme) : Prop := nestAfter [] ls = some []

instance (ls : List Lexeme) : Decidable (Nested ls) := inferInstanceAs (Decidable (_ = _))

/-- A kind that leaves the open brackets as they are. -/
def keepsNesting (k : Kind) : Bool :=
  (Bracket.opening? k).isNone && (Bracket.closing? k).isNone && k != .closeTag

theorem nestStep_cases {stack stack' : List Bracket} {k : Kind}
    (h : nestStep stack k = some stack') :
    (∃ b, Bracket.opening? k = some b ∧ stack' = b :: stack) ∨
      (∃ b, Bracket.closing? k = some b ∧ stack = b :: stack') ∨
      (keepsNesting k = true ∧ stack' = stack) := by
  unfold nestStep at h
  split at h
  · exact .inl ⟨_, ‹_›, (Option.some.inj h).symm⟩
  · split at h
    · rename_i heq
      subst heq
      exact .inr (.inl ⟨_, ‹_›, by rw [Option.some.inj h]⟩)
    · cases h
  · cases h
  · split at h
    · cases h
    · refine .inr (.inr ⟨?_, (Option.some.inj h).symm⟩)
      simp_all [keepsNesting]

theorem nestStep_opening {k : Kind} {b : Bracket} (h : Bracket.opening? k = some b)
    (stack : List Bracket) : nestStep stack k = some (b :: stack) := by
  simp [nestStep, h]

theorem opening?_of_closing? {k : Kind} {b : Bracket} (h : Bracket.closing? k = some b) :
    Bracket.opening? k = none := by
  revert h
  cases k <;> simp [Bracket.opening?, Bracket.closing?]

theorem nestStep_closing {k : Kind} {b : Bracket} (h : Bracket.closing? k = some b)
    (stack : List Bracket) : nestStep (b :: stack) k = some stack := by
  simp [nestStep, h, opening?_of_closing? h]

theorem nestStep_of_keepsNesting {k : Kind} (h : keepsNesting k = true) (stack : List Bracket) :
    nestStep stack k = some stack := by
  simp only [keepsNesting, Bool.and_eq_true, Option.isNone_iff_eq_none, bne_iff_ne] at h
  simp [nestStep, h]

theorem nestAfter_cons {stack stack' : List Bracket} {l : Lexeme} {ls : List Lexeme}
    (h : nestAfter stack (l :: ls) = some stack') :
    ∃ next, nestStep stack l.kind = some next ∧ nestAfter next ls = some stack' :=
  Option.bind_eq_some_iff.mp h

theorem nestAfter_append (stack : List Bracket) (ls ms : List Lexeme) :
    nestAfter stack (ls ++ ms) = (nestAfter stack ls).bind fun st => nestAfter st ms := by
  induction ls generalizing stack with
  | nil => rfl
  | cons l ls ih =>
    rw [List.cons_append, nestAfter, nestAfter, Option.bind_assoc]
    congr 1
    exact funext ih

/-- Brackets that are open already do not matter. -/
theorem nestAfter_frame {stack stack' : List Bracket} {ls : List Lexeme}
    (h : nestAfter stack ls = some stack') (base : List Bracket) :
    nestAfter (stack ++ base) ls = some (stack' ++ base) := by
  induction ls generalizing stack with
  | nil => rw [← Option.some.inj h]; rfl
  | cons l ls ih =>
    obtain ⟨next, hstep, h⟩ := nestAfter_cons h
    have hstep' : nestStep (stack ++ base) l.kind = some (next ++ base) := by
      rcases nestStep_cases hstep with ⟨b, hb, rfl⟩ | ⟨b, hb, rfl⟩ | ⟨hkeeps, rfl⟩
      · exact nestStep_opening hb _
      · exact nestStep_closing hb _
      · exact nestStep_of_keepsNesting hkeeps _
    rw [nestAfter, hstep']
    exact ih h

namespace Nested

variable {ls ms : List Lexeme}

theorem append_iff (hls : Nested ls) : Nested (ls ++ ms) ↔ Nested ms := by
  rw [Nested, nestAfter_append, hls]
  rfl

theorem keepsNesting_iff {l : Lexeme} (hl : keepsNesting l.kind = true) :
    Nested (l :: ls) ↔ Nested ls := by
  rw [Nested, nestAfter, nestStep_of_keepsNesting hl]
  rfl

end Nested

theorem keepsNesting_of_isTrivia {k : Kind} (h : k.isTrivia = true) : keepsNesting k = true := by
  cases k <;> first | rfl | cases h

theorem Blank.nested {ls : List Lexeme} (h : Blank ls) : Nested ls := by
  induction ls with
  | nil => rfl
  | cons l ls ih =>
    rw [Nested.keepsNesting_iff (keepsNesting_of_isTrivia (h l List.mem_cons_self))]
    exact ih fun m hm => h m (List.mem_cons_of_mem l hm)

theorem Nested.of_append_blank {ls u : List Lexeme} (h : Nested (ls ++ u)) (hu : Blank u) :
    Nested ls := by
  rw [Nested, nestAfter_append] at h
  obtain ⟨stack, hls, hstack⟩ := Option.bind_eq_some_iff.mp h
  have hframe := nestAfter_frame hu.nested stack
  rw [List.nil_append, hstack] at hframe
  rw [Nested, hls, Option.some.inj hframe]

/-! ## Round brackets -/

/-- The number of open round brackets is the depth. -/
theorem depthStep_of_nestStep {stack stack' : List Bracket} {k : Kind}
    (h : nestStep stack k = some stack') :
    depthStep (stack.count .round) k = some (stack'.count .round) := by
  rcases nestStep_cases h with ⟨b, hb, rfl⟩ | ⟨b, hb, rfl⟩ | ⟨hkeeps, rfl⟩
  · revert hb
    cases k <;> simp [Bracket.opening?, depthStep] <;> rintro rfl <;> simp
  · revert hb
    cases k <;> simp [Bracket.closing?, depthStep] <;> rintro rfl <;> simp
  · revert hkeeps
    cases k <;> simp [keepsNesting, Bracket.opening?, Bracket.closing?, depthStep]

theorem depthAfter_of_nestAfter {stack stack' : List Bracket} {ls : List Lexeme}
    (h : nestAfter stack ls = some stack') :
    depthAfter (stack.count .round) ls = some (stack'.count .round) := by
  induction ls generalizing stack with
  | nil => rw [← Option.some.inj h]; rfl
  | cons l ls ih =>
    obtain ⟨next, hstep, h⟩ := nestAfter_cons h
    rw [depthAfter, depthStep_of_nestStep hstep]
    exact ih h

theorem Nested.balanced {ls : List Lexeme} (h : Nested ls) : Balanced ls :=
  depthAfter_of_nestAfter h

theorem closing?_eq_round {k : Kind} (h : Bracket.closing? k = some .round) :
    k = .closeParenthesis := by
  revert h
  cases k <;> simp [Bracket.closing?]

/-- Lexemes that do not close a round bracket around them leave what is below it alone. -/
theorem nestAfter_of_depthAfter {stack base stack' : List Bracket} {ls : List Lexeme} {d : Nat}
    (hdepth : depthAfter (stack.count .round) ls = some d)
    (h : nestAfter (stack ++ .round :: base) ls = some stack') :
    ∃ own, nestAfter stack ls = some own ∧ stack' = own ++ .round :: base := by
  induction ls generalizing stack with
  | nil => exact ⟨stack, rfl, (Option.some.inj h).symm⟩
  | cons l ls ih =>
    obtain ⟨next, hstep, h⟩ := nestAfter_cons h
    obtain ⟨d', hd', hdepth⟩ := depthAfter_cons hdepth
    have hown : ∃ own, nestStep stack l.kind = some own ∧ next = own ++ .round :: base := by
      rcases nestStep_cases hstep with ⟨b, hb, rfl⟩ | ⟨b, hb, hstack⟩ | ⟨hkeeps, rfl⟩
      · exact ⟨b :: stack, nestStep_opening hb stack, rfl⟩
      · cases stack with
        | nil =>
          -- The bracket around the lexemes would be closed, at depth 0.
          obtain ⟨rfl, _⟩ := List.cons.inj hstack
          rw [closing?_eq_round hb] at hd'
          cases hd'
        | cons b' stack =>
          obtain ⟨rfl, rfl⟩ := List.cons.inj hstack
          exact ⟨stack, nestStep_closing hb stack, rfl⟩
      · exact ⟨stack, nestStep_of_keepsNesting hkeeps stack, rfl⟩
    obtain ⟨own, hown, rfl⟩ := hown
    rw [depthStep_of_nestStep hown] at hd'
    rw [← Option.some.inj hd'] at hdepth
    rw [nestAfter, hown]
    exact ih hdepth h

section

variable {o c : Lexeme} {inner rest : List Lexeme}

/-- A pair of round brackets around nested lexemes leaves the stack as it is. -/
theorem nestAfter_nested_group (ho : o.kind = .openParenthesis) (hc : c.kind = .closeParenthesis)
    (hinner : Nested inner) (stack : List Bracket) :
    nestAfter stack (o :: (inner ++ c :: rest)) = nestAfter stack rest := by
  have hframe := nestAfter_frame hinner (.round :: stack)
  rw [List.nil_append] at hframe
  rw [nestAfter, ho, nestStep_opening rfl, Option.bind_some, nestAfter_append, hframe,
    Option.bind_some, nestAfter, hc, nestStep_closing rfl, Option.bind_some]

/-- The inside of a pair of round brackets is nested. -/
theorem nestAfter_group (ho : o.kind = .openParenthesis) (hc : c.kind = .closeParenthesis)
    (hinner : Balanced inner) {stack stack' : List Bracket}
    (h : nestAfter stack (o :: (inner ++ c :: rest)) = some stack') :
    Nested inner ∧ nestAfter stack rest = some stack' := by
  have hnested : Nested inner := by
    rw [nestAfter, ho, nestStep_opening rfl, Option.bind_some, nestAfter_append] at h
    obtain ⟨middle, hmiddle, h⟩ := Option.bind_eq_some_iff.mp h
    obtain ⟨own, hown, rfl⟩ := @nestAfter_of_depthAfter [] stack middle inner 0 hinner hmiddle
    have hrounds : own.count .round = 0 := by
      have hdepth := depthAfter_of_nestAfter hown
      rw [List.count_nil, hinner] at hdepth
      exact (Option.some.inj hdepth).symm
    obtain ⟨next, hstep, _⟩ := nestAfter_cons h
    cases own with
    | nil => exact hown
    | cons b own =>
      -- Another bracket would stand on top, and no round one is left.
      rw [hc] at hstep
      rcases nestStep_cases hstep with ⟨_, hb, _⟩ | ⟨_, hb, heq⟩ | ⟨hkeeps, _⟩
      · cases hb
      · cases hb
        obtain ⟨rfl, _⟩ := List.cons.inj heq
        simp at hrounds
      · cases hkeeps
  rw [nestAfter_nested_group ho hc hnested] at h
  exact ⟨hnested, h⟩

end

theorem Nested.inside {t u inner : List Lexeme} {o c : Lexeme} (ho : o.kind = .openParenthesis)
    (hc : c.kind = .closeParenthesis) (hinner : Balanced inner) (ht : Blank t)
    (h : Nested (t ++ (o :: (inner ++ [c]) ++ u))) : Nested inner := by
  rw [ht.nested.append_iff, Nested, List.cons_append, List.append_assoc] at h
  exact (nestAfter_group ho hc hinner h).1

/-! ## Ternaries -/

theorem closing?_eq_ternary {k : Kind} (h : Bracket.closing? k = some .ternary) :
    (k == .inlineElse) = true := by
  revert h
  cases k <;> simp [Bracket.closing?]

theorem opening?_eq_ternary {k : Kind} (h : Bracket.opening? k = some .ternary) :
    (k == .inlineThen) = true := by
  revert h
  cases k <;> simp [Bracket.opening?]

/-- Lexemes without `?` and `:`, round brackets apart, do not close a ternary around them and open
none. -/
theorem nestAfter_of_bare {ls : List Lexeme} (hb : Balanced ls)
    (hthen : Bare (· == .inlineThen) ls) (helse : Bare (· == .inlineElse) ls)
    {stack base stack' : List Bracket} (hstack : .ternary ∉ stack)
    (h : nestAfter (stack ++ .ternary :: base) ls = some stack') :
    ∃ own, nestAfter stack ls = some own ∧ stack' = own ++ .ternary :: base ∧ .ternary ∉ own := by
  induction hn : ls.length using Nat.strongRecOn generalizing ls stack with
  | _ n ih =>
    subst hn
    cases ls with
    | nil => exact ⟨stack, rfl, (Option.some.inj h).symm, hstack⟩
    | cons l ls =>
      rcases hb.cases_cons with ⟨hflat, hb⟩ | ⟨ho, inner, c, rest, rfl, hc, hinner, hrest⟩
      · rw [Bare.flat_iff hflat] at hthen helse
        obtain ⟨next, hstep, h⟩ := nestAfter_cons h
        have hown : ∃ own, nestStep stack l.kind = some own ∧ next = own ++ .ternary :: base ∧
            .ternary ∉ own := by
          rcases nestStep_cases hstep with ⟨b, hopen, rfl⟩ | ⟨b, hclose, heq⟩ | ⟨hkeeps, rfl⟩
          · refine ⟨b :: stack, nestStep_opening hopen stack, rfl, ?_⟩
            rw [List.mem_cons]
            rintro (rfl | hmem)
            · rw [opening?_eq_ternary hopen] at hthen
              cases hthen.1
            · exact hstack hmem
          · cases stack with
            | nil =>
              obtain ⟨rfl, _⟩ := List.cons.inj heq
              rw [closing?_eq_ternary hclose] at helse
              cases helse.1
            | cons b' stack =>
              obtain ⟨rfl, rfl⟩ := List.cons.inj heq
              exact ⟨stack, nestStep_closing hclose stack, rfl,
                fun hmem => hstack (List.mem_cons_of_mem _ hmem)⟩
          · exact ⟨stack, nestStep_of_keepsNesting hkeeps stack, rfl, hstack⟩
        obtain ⟨own, hown, rfl, hternary⟩ := hown
        rw [nestAfter, hown]
        exact ih ls.length (by simp) hb hthen.2 helse.2 hternary h rfl
      · rw [Bare.group_iff ho hc hinner] at hthen helse
        obtain ⟨hnested, h⟩ := nestAfter_group ho hc hinner h
        rw [nestAfter_nested_group ho hc hnested]
        exact ih rest.length (by simp; omega) hrest hthen helse hstack h rfl

/-- The branches of a ternary whose `?` stands outside all brackets are nested. -/
theorem Nested.branches {cond yes no : List Lexeme} {q e : Lexeme} (hq : q.kind = .inlineThen)
    (he : e.kind = .inlineElse) (hyes : Balanced yes) (hthen : Bare (· == .inlineThen) yes)
    (helse : Bare (· == .inlineElse) yes) (hcond : Nested cond)
    (h : Nested (cond ++ q :: (yes ++ e :: no))) : Nested yes ∧ Nested no := by
  rw [hcond.append_iff, Nested, nestAfter, hq, nestStep_opening rfl, Option.bind_some,
    nestAfter_append] at h
  obtain ⟨middle, hmiddle, h⟩ := Option.bind_eq_some_iff.mp h
  obtain ⟨own, hown, rfl, hternary⟩ :=
    @nestAfter_of_bare yes hyes hthen helse [] [] middle (by simp) hmiddle
  obtain ⟨next, hstep, h⟩ := nestAfter_cons h
  rw [he] at hstep
  rcases nestStep_cases hstep with ⟨_, hb, _⟩ | ⟨_, hb, heq⟩ | ⟨hkeeps, _⟩
  · cases hb
  · cases hb
    cases own with
    | nil =>
      obtain ⟨_, rfl⟩ := List.cons.inj heq
      exact ⟨hown, h⟩
    | cons b own =>
      obtain ⟨rfl, _⟩ := List.cons.inj heq
      exact absurd List.mem_cons_self hternary
  · cases hkeeps

/-! ## Ranges -/

/-- The lexemes of a range. -/
def slice (s : Stream) (r : Range) : List Lexeme :=
  (s.lexemes.drop r.start).take (r.stop - r.start)

/-- The lexemes of a range are nested. -/
def Nests (s : Stream) (r : Range) : Prop := Nested (s.slice r)

instance (s : Stream) (r : Range) : Decidable (s.Nests r) :=
  inferInstanceAs (Decidable (Nested _))

theorem slice_append (s : Stream) {a b c : Nat} (hab : a ≤ b) (hbc : b ≤ c) :
    s.slice ⟨a, b⟩ ++ s.slice ⟨b, c⟩ = s.slice ⟨a, c⟩ := by
  have hsum : c - a = (b - a) + (c - b) := by omega
  have hdrop : s.lexemes.drop b = (s.lexemes.drop a).drop (b - a) := by
    rw [List.drop_drop]
    congr 1
    omega
  simp only [slice]
  rw [hsum, List.take_add, hdrop]

theorem Lies.slice_eq {s : Stream} {a : Nat} {ls : List Lexeme} (h : s.Lies a ls) :
    s.slice ⟨a, a + ls.length⟩ = ls := by
  obtain ⟨before, after, rfl, rfl⟩ := h
  simp [slice]

/-- The operators that separate a part of a range from the rest: the last `?` in scope, or else the
`.` in scope before the part and the one behind it. -/
def cutsBeside (s : Stream) (r part : Range) : List Nat :=
  match s.lastInScope (· == .inlineThen) r with
  | some i => [i]
  | none =>
    (s.inScope (· == .concat) r).toList.filter fun i => i + 1 == part.start || i == part.stop

/-- Splitting leads from a range to a leaf with the given ends, and on the way every operator that the
leaf is separated at stands outside all brackets of the range that is cut there. -/
inductive CutOutside (s : Stream) : Range → (first last : Nat) → Prop where
  /-- The range is the leaf. -/
  | leaf {r : Range} {l : Leaf} : s.split r = .leaf l → CutOutside s r l.first l.last
  /-- The leaf lies in a part of the range. -/
  | part {r part : Range} {first last : Nat} : part ∈ (s.split r).children →
    (∀ i ∈ s.cutsBeside r part, s.Nests ⟨r.start, i⟩) → CutOutside s part first last →
    CutOutside s r first last

section

variable {s : Stream} {a : Nat} {ls : List Lexeme}

/-- A piece of a concatenation is nested when the operators beside it stand outside all brackets. -/
theorem nests_piece (hlies : s.Lies a ls) (hn : Nested ls) {cuts : List Nat} {p : Range}
    (hp : p ∈ Range.pieces a (a + ls.length) cuts) (hle : p.start ≤ p.stop)
    (hcuts : ∀ i ∈ cuts, a ≤ i ∧ s.holds (· == .concat) i = true ∧
      (i + 1 = p.start ∨ i = p.stop → s.Nests ⟨a, i⟩)) : s.Nests p := by
  obtain ⟨hstart, hstop⟩ := Range.mem_pieces hp
  have hbefore : s.Nests ⟨a, p.stop⟩ := by
    rcases hstop with hstop | hstop
    · rw [Nests, hstop, hlies.slice_eq]
      exact hn
    · exact (hcuts _ hstop).2.2 (.inr rfl)
  rcases hstart with hstart | ⟨i, hi, hstart⟩
  · rw [← hstart] at hbefore
    exact hbefore
  · -- Up to the operator the lexemes are nested, and the operator is no bracket.
    obtain ⟨hai, hconcat, hnests⟩ := hcuts i hi
    replace hnests := hnests (.inl hstart.symm)
    have hoperator : ∃ d, s.slice ⟨i, i + 1⟩ = [d] ∧ d.kind = .concat := by
      obtain ⟨k, hk, hkind⟩ := holds_iff.mp hconcat
      obtain rfl : k = .concat := by simpa using hkind
      obtain ⟨token, htoken, hkind⟩ := Option.map_eq_some_iff.mp hk
      have hl : s.lexemes[i]? = some token.lexeme := by simp [lexemes, htoken]
      refine ⟨token.lexeme, ?_, hkind⟩
      obtain ⟨hlt, hget⟩ := List.getElem?_eq_some_iff.mp hl
      simp [slice, List.drop_eq_getElem_cons hlt, hget]
    obtain ⟨d, hslice, hd⟩ := hoperator
    rw [Nests, ← s.slice_append hai (by omega : i ≤ p.stop), hnests.append_iff,
      ← s.slice_append (by omega : i ≤ i + 1) (by omega : i + 1 ≤ p.stop), hslice, List.singleton_append,
      Nested.keepsNesting_iff (by rw [hd]; rfl), ← hstart] at hbefore
    exact hbefore

/-- A part of a nested range is nested when it is separated outside all brackets. -/
theorem nests_child (hlies : s.Lies a ls) (hn : Nested ls) {c : Range}
    (hc : c ∈ (s.split ⟨a, a + ls.length⟩).children)
    (hcuts : ∀ i ∈ s.cutsBeside ⟨a, a + ls.length⟩ c, s.Nests ⟨a, i⟩) : s.Nests c := by
  have hb := hn.balanced
  obtain ⟨b, ms, hrange, _⟩ := balanced_child hlies hb hc
  obtain ⟨outcome, hsplit⟩ : ∃ outcome, s.split ⟨a, a + ls.length⟩ = outcome := ⟨_, rfl⟩
  have hshape := shape_split hlies hb
  rw [hsplit] at hshape hc
  cases hshape with
  | blank => cases hc
  | pair ho hclose hinner ht =>
    rw [List.mem_singleton.mp hc, Nests, hlies.right.left.tail.left.slice_eq]
    exact hn.inside ho hclose hinner ht
  | lone => cases hc
  | @ternary cond yes no q e hcond hq hyes he hno hthen hthen' helse =>
    have hrest : Balanced (yes ++ e :: no) :=
      hyes.append ((Balanced.flat (by rw [he]; rfl)).mpr hno)
    have hlast : Bare (· == .inlineThen) (yes ++ e :: no) :=
      (Bare.append_iff hyes).mpr ⟨hthen, (Bare.flat_iff (by rw [he]; rfl)).mpr
        ⟨by rw [he]; rfl, hthen'⟩⟩
    have hcut : s.Nests ⟨a, a + cond.length⟩ := by
      refine hcuts _ ?_
      rw [cutsBeside, lastInScope_inlineThen hcond hq hrest hlast hlies]
      exact List.mem_singleton_self _
    rw [Nests, hlies.left.slice_eq] at hcut
    obtain ⟨hnyes, hnno⟩ := Nested.branches hq he hyes hthen helse hcut hn
    simp only [Split.children, List.mem_cons, List.not_mem_nil, or_false] at hc
    rcases hc with rfl | rfl
    · rw [Nests, hlies.right.tail.left.slice_eq]
      exact hnyes
    · rw [Nests, hlies.right.tail.right.tail.slice_eq]
      exact hnno
  | chain _ hthen _ =>
    have hscope := inScope_eq_outermost (· == .concat) rfl hlies hb
    refine nests_piece hlies hn hc (by rw [hrange]; exact Nat.le_add_right _ _) fun i hi => ?_
    rw [← hscope] at hi
    obtain ⟨hai, _, hconcat⟩ := mem_inScope (by simpa using hi)
    refine ⟨hai, hconcat, fun hbeside => hcuts i ?_⟩
    rw [cutsBeside, lastInScope_eq _ rfl hlies hb, outermost_eq_nil_iff.mpr hthen]
    exact List.mem_filter.mpr ⟨hi, by simpa using hbeside⟩
  | leaf => cases hc

/-- A leaf of a nested range is nested. -/
theorem nests_leaf (hlies : s.Lies a ls) (hn : Nested ls) {l : Leaf}
    (hl : s.split ⟨a, a + ls.length⟩ = .leaf l) : s.Nests ⟨l.first, l.last + 1⟩ := by
  have hshape := shape_split hlies hn.balanced
  rw [hl] at hshape
  cases hshape with
  | @leaf t core u hleaf =>
    have hpos := hleaf.solid.length_pos
    have hstop : a + t.length + core.length - 1 + 1 = a + t.length + core.length := by omega
    rw [Nests, leafAt, hstop, hlies.right.left.slice_eq]
    exact ((hleaf.before.nested.append_iff).mp hn).of_append_blank hleaf.after

end

/-- A leaf that is separated outside all brackets on the way from a nested range is nested. -/
theorem CutOutside.nests {s : Stream} {r : Range} {first last : Nat}
    (h : s.CutOutside r first last) {a : Nat} {ls : List Lexeme} (hr : r = ⟨a, a + ls.length⟩)
    (hlies : s.Lies a ls) (hn : Nested ls) : s.Nests ⟨first, last + 1⟩ := by
  induction h generalizing a ls with
  | leaf hsplit =>
    subst hr
    exact nests_leaf hlies hn hsplit
  | part hpart hcuts _ ih =>
    subst hr
    obtain ⟨b, ms, hrange, hms, _⟩ := balanced_child hlies hn.balanced hpart
    have hnests := nests_child hlies hn hpart hcuts
    rw [hrange, Nests, hms.slice_eq] at hnests
    exact ih hrange hms hnests

/-! ## Calls of the escaper -/

/-- Parentheses that are put around lexemes are a pair, whatever stands around them. -/
def Pairs (core : List Lexeme) : Prop :=
  ∀ before after, (ofLexemes (before ++ opening :: (core ++ closing :: after))).partner?
    before.length = some (before.length + core.length + 1)

theorem Balanced.pairs {core : List Lexeme} (h : Balanced core) : Pairs core :=
  fun _ _ => partner?_group rfl rfl h

/-- A changeset that puts something before one token and behind another is a call around a leaf. -/
theorem exists_leaf_of_changeset {s : Stream} {rules : RuleSet} {e first last : Nat}
    {before after : String}
    (h : ⟨[.insertBefore first before, .insertAfter last after]⟩ ∈ s.outputChangesets rules e) :
    ∃ l ∈ (s.statementWalk e).leaves, l.first = first ∧ l.last = last ∧ after = ")" ∧
      ∃ f : EscapeFunction, before = rules.escaperAccessor ++ "->" ++ f.method ++ "(" := by
  obtain ⟨f, hf, hfix⟩ := List.mem_filterMap.mp h
  obtain ⟨l, hl, anchor, _, hchangeset⟩ := fix_of_mem_outputFindings hf hfix
  refine ⟨l, hl, ?_⟩
  unfold Decision.changeset? at hchangeset
  split at hchangeset
  · cases hchangeset
  · cases hchangeset
  · rename_i g _
    injection hchangeset with hchangeset
    injection hchangeset with hedits
    simp only [List.cons.injEq, Edit.insertBefore.injEq, Edit.insertAfter.injEq, and_true] at hedits
    obtain ⟨⟨hfirst, hbefore⟩, hlast, hafter⟩ := hedits
    exact ⟨hfirst, hlast, hafter.symm, g, hbefore.symm⟩

end Stream

/-- A call is put around tokens of one statement.  Where the parentheses of the statement are
matched, the two parentheses of the call are a pair.  Where all brackets of the statement are nested
and splitting separates what is enclosed outside all brackets, its brackets are nested. -/
theorem wraps_nested {source : String} {s : Stream} (h : tokenize source = .ok s) (rules : RuleSet)
    {e : Nat} (he : e ∈ s.entryPoints) {first last : Nat} {before after : String}
    (hwrap : ⟨[.insertBefore first before, .insertAfter last after]⟩ ∈
      s.outputChangesets rules e) :
    (after = ")" ∧
      ∃ f : EscapeFunction, before = rules.escaperAccessor ++ "->" ++ f.method ++ "(") ∧
    (e < first ∧ first ≤ last ∧ last < s.statementEnd e) ∧
    (s.Matched (s.statementRange e) → Stream.Pairs (s.slice ⟨first, last + 1⟩)) ∧
    (s.Nests (s.statementRange e) → s.CutOutside (s.statementRange e) first last →
      s.Nests ⟨first, last + 1⟩ ∧ Stream.Pairs (s.slice ⟨first, last + 1⟩)) := by
  obtain ⟨ls, _, _, _, rfl⟩ := (tokenize_eq_ok_iff source s).mp h
  obtain ⟨l, hl, rfl, rfl, hafter, hbefore⟩ := Stream.exists_leaf_of_changeset hwrap
  obtain ⟨front, entry, content, behind, hst, rfl⟩ := Stream.exists_isStatement he
  refine ⟨⟨hafter, hbefore⟩, ((Stream.ofLexemes ls).leaves_statementWalk _).2 l hl,
    fun hmatched => ?_, fun hnests hcuts => ?_⟩
  · obtain ⟨b, t, core, u, rfl, hlies, hleaf⟩ :=
      (Stream.under_statementRange hl).exists_isLeaf hst.statementRange_eq hst.lies
        (hst.balanced hmatched)
    have hpos := hleaf.solid.length_pos
    have hstop : b + t.length + core.length - 1 + 1 = b + t.length + core.length := by omega
    rw [Stream.leafAt, hstop, hlies.right.left.slice_eq]
    exact hleaf.balanced.pairs
  · have hcontent : Stream.Nested content := by
      rw [Stream.Nests, hst.statementRange_eq, hst.lies.slice_eq] at hnests
      exact hnests
    have hnested := hcuts.nests hst.statementRange_eq hst.lies hcontent
    exact ⟨hnested, (Stream.Nested.balanced hnested).pairs⟩

/-- A call around the first piece of a branch.  The `.` between square brackets separates other
pieces. -/
theorem wraps_nested_ternary :
    ∃ s, tokenize "<?= $q ? $a . [1 . 2][0] : $d ?>" = .ok s ∧ 0 ∈ s.entryPoints ∧
      ⟨[.insertBefore 6 "$escaper->escapeHtml(", .insertAfter 6 ")"]⟩ ∈
        s.outputChangesets .standard 0 ∧
      s.Nests (s.statementRange 0) ∧ s.CutOutside (s.statementRange 0) 6 6 ∧ s.Nests ⟨6, 7⟩ := by
  obtain ⟨s, hs⟩ : ∃ s, s = (Lexed.ofSource "<?= $q ? $a . [1 . 2][0] : $d ?>").stream := ⟨_, rfl⟩
  have hok : tokenize "<?= $q ? $a . [1 . 2][0] : $d ?>" = .ok s :=
    hs ▸ tokenize_of_fault_eq_none (by decide +kernel)
  have he : 0 ∈ s.entryPoints := by
    rw [hs]
    decide +kernel
  have hwrap : ⟨[.insertBefore 6 "$escaper->escapeHtml(", .insertAfter 6 ")"]⟩ ∈
      s.outputChangesets .standard 0 := by
    rw [hs]
    decide +kernel
  have hnests : s.Nests (s.statementRange 0) := by
    rw [hs]
    decide +kernel
  have hcuts : s.CutOutside (s.statementRange 0) 6 6 := by
    have hpiece : s.CutOutside ⟨5, 8⟩ 6 6 :=
      .leaf (l := ⟨⟨5, 8⟩, 6, 6⟩) (by rw [hs]; decide +kernel)
    have hbranch : s.CutOutside ⟨5, 21⟩ 6 6 :=
      .part (by rw [hs]; decide +kernel) (by rw [hs]; decide +kernel) hpiece
    exact .part (by rw [hs]; decide +kernel) (by rw [hs]; decide +kernel) hbranch
  exact ⟨s, hok, he, hwrap, hnests, hcuts,
    ((wraps_nested hok .standard he hwrap).2.2.2 hnests hcuts).1⟩

/-- A `.` inside square brackets is cut at, and the calls enclose one bracket each. -/
theorem wraps_crossed_index :
    ∃ s, tokenize "<?= $a[$b . $c] ?>" = .ok s ∧ s.Nests ⟨1, 11⟩ ∧ s.kind? 11 = some .closeTag ∧
      ⟨[.insertBefore 2 "$escaper->escapeHtml(", .insertAfter 4 ")"]⟩ ∈
        s.outputChangesets .standard 0 ∧
      ¬ s.Nests ⟨2, 5⟩ := by
  refine ⟨(Lexed.ofSource "<?= $a[$b . $c] ?>").stream,
    tokenize_of_fault_eq_none (by decide +kernel), by decide +kernel, by decide +kernel,
    by decide +kernel, by decide +kernel⟩

end EscapeAudit
