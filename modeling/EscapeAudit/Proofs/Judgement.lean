import EscapeAudit.Output.Markup
import EscapeAudit.Proofs.Amendment
import EscapeAudit.Proofs.Shape

/-!
# Judging balanced lexemes

The verdict on a leaf can be seen from its lexemes, as far as they are balanced.  So a leaf is
judged alike wherever its lexemes stand (`judge_moved`), and a call of the escaper is judged to be
escaped already, whatever its argument is (`judge_escaperCall`).
-/

namespace EscapeAudit

open Lexer

/-- Verdicts that agree up to the place of the anchor. -/
def Verdict.Agrees : Verdict → Verdict → Prop
  | .unescaped _, .unescaped _ => True
  | v, w => v = w

namespace Stream

/-! ## Searching lexemes -/

theorem firstFrom_add (test : Nat → Bool) (b i n : Nat) :
    firstFrom test (b + i) n = (firstFrom (fun j => test (b + j)) i n).map (b + ·) := by
  induction n generalizing i with
  | zero => rfl
  | succ n ih =>
    rw [firstFrom, firstFrom]
    split
    · rfl
    · rw [Nat.add_assoc, ih]

theorem firstFrom_congr {test other : Nat → Bool} {i n : Nat}
    (h : ∀ j, i ≤ j → j < i + n → test j = other j) : firstFrom test i n = firstFrom other i n := by
  induction n generalizing i with
  | zero => rfl
  | succ n ih =>
    rw [firstFrom, firstFrom, h i (by omega) (by omega),
      ih fun j hj hlt => h j (by omega) (by omega)]

/-- The first lexeme from an index on whose kind passes the test. -/
def findFrom (test : Kind → Bool) (ls : List Lexeme) (i : Nat) : Option Nat :=
  firstFrom (fun j => ls[j]?.any fun l => test l.kind) i (ls.length - i)

theorem Lies.le_size {s : Stream} {a : Nat} {ls : List Lexeme} (h : s.Lies a ls) :
    a + ls.length ≤ s.size := by
  obtain ⟨before, after, rfl, rfl⟩ := h
  simp

/-- A search among lexemes of a stream finds the same lexeme. -/
theorem Lies.findNext {s : Stream} {a : Nat} {ls : List Lexeme} (h : s.Lies a ls)
    (test : Kind → Bool) (i : Nat) :
    s.findNext test (a + i) (a + ls.length) = (findFrom test ls i).map (a + ·) := by
  rw [Stream.findNext, firstIn, findFrom, Nat.min_eq_left h.le_size, firstFrom_add]
  have hlength : a + ls.length - (a + i) = ls.length - i := by omega
  rw [hlength]
  congr 1
  refine firstFrom_congr fun j hj hlt => ?_
  have hj' : j < ls.length := by omega
  have hl : ls[j]? = some ls[j] := List.getElem?_eq_getElem hj'
  rw [h.holds hl, hl]
  rfl

/-! ## Verdicts -/

/-- The verdict on lexemes that begin with a variable. -/
def memberVerdict (rules : RuleSet) (a : Nat) (ls : List Lexeme) : Verdict :=
  match (outermost Kind.isMemberAccess 0 0 ls).getLast? with
  | none => .unescaped a
  | some i =>
    match findFrom isMember ls (i + 1) with
    | none => .skipped
    | some j =>
      if ls[j]?.any fun l => l.kind == .identifier && rules.isAllowedMethod l.text then
        .safe .alreadyEscaped
      else .unescaped (a + j)

theorem judgeVariable_eq {s : Stream} {rules : RuleSet} {a : Nat} {ls : List Lexeme} {l : Leaf}
    (hlies : s.Lies a ls) (hb : Balanced ls) (hfirst : l.first = a)
    (hstop : l.range.stop = a + ls.length) : s.judgeVariable rules l = memberVerdict rules a ls := by
  rw [judgeVariable, hfirst, hstop, lastInScope_eq _ rfl hlies hb, memberVerdict]
  have hshift := outermost_shift Kind.isMemberAccess 0 0 a ls
  rw [Nat.zero_add] at hshift
  rw [hshift, List.getLast?_map]
  cases (outermost Kind.isMemberAccess 0 0 ls).getLast? with
  | none => rfl
  | some i =>
    simp only [Option.map_some]
    rw [show i + a + 1 = a + (i + 1) by omega, hlies.findNext]
    cases hfind : findFrom isMember ls (i + 1) with
    | none => rfl
    | some j =>
      have hj : j < ls.length := by
        obtain ⟨hle, hlt, _⟩ := firstFrom_eq_some_iff.mp hfind
        omega
      have hl : ls[j]? = some ls[j] := List.getElem?_eq_getElem hj
      simp only [Option.map_some, hlies.kind? hl, hlies.text hl, hl]
      rfl

/-- The verdict on a leaf, seen from its lexemes. -/
def leafVerdict (rules : RuleSet) (a : Nat) (t core u : List Lexeme) : Verdict :=
  if outermost Kind.isArithmetic 0 0 (t ++ (core ++ u)) ≠ [] then .safe .numeric
  else
    match core.head? with
    | none => .skipped
    | some l =>
      match l.kind.category with
      | .call =>
        if rules.isAllowedFunction (Text.dropLeadingChar '\\' l.text) then .safe .allowedFunction
        else .unescaped (a + t.length)
      | .interpolatingLiteral => .unescaped (a + t.length)
      | .variable => memberVerdict rules (a + t.length) (core ++ u)
      | .safeConstant => .safe .constant
      | .other => .safe .unrecognized

theorem judge_eq {s : Stream} {rules : RuleSet} {a : Nat} {t core u : List Lexeme}
    (hleaf : IsLeaf t core u) (hlies : s.Lies a (t ++ (core ++ u))) :
    s.judge rules (leafAt a t core u) = leafVerdict rules a t core u := by
  have hb : Balanced (core ++ u) := hleaf.balanced.append hleaf.after.balanced
  have harith : (s.firstInScope Kind.isArithmetic (leafAt a t core u).range).isSome = true ↔
      outermost Kind.isArithmetic 0 0 (t ++ (core ++ u)) ≠ [] := by
    have hfirst : s.firstInScope Kind.isArithmetic (leafAt a t core u).range = _ :=
      firstInScope_eq _ rfl hlies (hleaf.before.balanced.append hb)
    have hshift := outermost_shift Kind.isArithmetic 0 0 a (t ++ (core ++ u))
    rw [Nat.zero_add] at hshift
    rw [hfirst, hshift]
    cases outermost Kind.isArithmetic 0 0 (t ++ (core ++ u)) <;> simp
  obtain ⟨l, hl, _⟩ := hleaf.solid.head
  have hhead : core[0]? = some l := by rwa [← List.head?_eq_getElem?]
  have hkind : s.kind? (leafAt a t core u).first = some l.kind := hlies.right.left.kind? hhead
  have htext : s.text (leafAt a t core u).first = l.text := hlies.right.left.text hhead
  have hstop : (leafAt a t core u).range.stop = a + t.length + (core ++ u).length := by
    simp only [leafAt, List.length_append]
    omega
  have hmember : s.judgeVariable rules (leafAt a t core u) =
      memberVerdict rules (a + t.length) (core ++ u) :=
    judgeVariable_eq hlies.right hb rfl hstop
  rw [judge, leafVerdict]
  by_cases hnumeric : outermost Kind.isArithmetic 0 0 (t ++ (core ++ u)) ≠ []
  · rw [if_pos (harith.mpr hnumeric), if_pos hnumeric]
  · rw [if_neg (fun h => hnumeric (harith.mp h)), if_neg hnumeric, hkind, hl]
    simp only [judgeCall, htext, hmember]
    rfl

/-- A leaf is judged alike wherever its lexemes stand. -/
theorem judge_moved {s s' : Stream} {rules : RuleSet} {a a' : Nat} {t core u : List Lexeme}
    (hleaf : IsLeaf t core u) (hlies : s.Lies a (t ++ (core ++ u)))
    (hlies' : s'.Lies a' (t ++ (core ++ u))) :
    (s.judge rules (leafAt a t core u)).Agrees (s'.judge rules (leafAt a' t core u)) := by
  have hrefl : ∀ reason, Verdict.Agrees (.safe reason) (.safe reason) := fun _ => rfl
  rw [judge_eq hleaf hlies, judge_eq hleaf hlies', leafVerdict, leafVerdict]
  split
  · exact hrefl _
  · split
    · rfl
    · split
      · split
        · exact hrefl _
        · trivial
      · trivial
      · unfold memberVerdict
        split
        · trivial
        · split
          · rfl
          · split
            · exact hrefl _
            · trivial
      · exact hrefl _
      · exact hrefl _

/-! ## Calls of the escaper -/

/-- The escaper and the method that is called on it. -/
def accessor (f : EscapeFunction) : List Lexeme :=
  [⟨.variable, "$escaper"⟩, ⟨.objectOperator, "->"⟩, ⟨.identifier, f.method⟩]

/-- A call of the escaper around lexemes.  Around the name of a type it is read as a cast. -/
inductive Wrapped (f : EscapeFunction) (core : List Lexeme) : List Lexeme → Prop where
  /-- With parentheses around the lexemes. -/
  | call : Wrapped f core (accessor f ++ opening :: (core ++ [closing]))
  /-- With the lexemes and the parentheses in one. -/
  | cast : Wrapped f core (accessor f ++ [castOf (core ++ [closing])])

namespace Wrapped

variable {f : EscapeFunction} {core w u : List Lexeme}

theorem exists_tail (h : Wrapped f core w) (hb : Balanced core) :
    ∃ tail, w = accessor f ++ tail ∧ Balanced tail ∧
      ∀ test : Kind → Bool, test .cast = false → Bare test tail := by
  cases h with
  | call =>
    exact ⟨_, rfl, Balanced.group rfl rfl hb, fun test _ => (Bare.group_iff rfl rfl hb).mpr rfl⟩
  | cast =>
    refine ⟨_, rfl, (Balanced.flat rfl).mpr .nil, fun test htest => ?_⟩
    exact (Bare.flat_iff rfl).mpr ⟨htest, rfl⟩

theorem balanced (h : Wrapped f core w) (hb : Balanced core) : Balanced w := by
  obtain ⟨tail, rfl, htail, _⟩ := h.exists_tail hb
  exact (Balanced.flat rfl).mpr ((Balanced.flat rfl).mpr ((Balanced.flat rfl).mpr htail))

theorem bare (h : Wrapped f core w) (hb : Balanced core) {test : Kind → Bool}
    (hvariable : test .variable = false) (hoperator : test .objectOperator = false)
    (hidentifier : test .identifier = false) (hcast : test .cast = false) : Bare test w := by
  obtain ⟨tail, rfl, _, htail⟩ := h.exists_tail hb
  refine (Bare.flat_iff rfl).mpr ⟨hvariable, (Bare.flat_iff rfl).mpr ⟨hoperator, ?_⟩⟩
  exact (Bare.flat_iff rfl).mpr ⟨hidentifier, htail test hcast⟩

/-- The outermost lexemes of a call are the escaper and its method. -/
theorem outermost_eq (h : Wrapped f core w) (hb : Balanced core) (hu : Blank u)
    {test : Kind → Bool} (htrivia : ∀ k, k.isTrivia = true → test k = false)
    (hcast : test .cast = false) :
    outermost test 0 0 (w ++ u) = outermost test 0 0 (accessor f) := by
  obtain ⟨tail, rfl, htail, hbare⟩ := h.exists_tail hb
  have haccessor : Balanced (accessor f) := rfl
  rw [List.append_assoc, outermost_append test haccessor, outermost_append test htail,
    outermost_eq_nil_iff.mpr (hbare test hcast), outermost_eq_nil_iff.mpr (hu.bare htrivia)]
  simp

theorem isCore (h : Wrapped f core w) : Core w := by
  cases h with
  | call =>
    exact ⟨⟨_, rfl, rfl⟩, closing, List.getLast?_concat (l := accessor f ++ opening :: core), rfl⟩
  | cast => exact ⟨⟨_, rfl, rfl⟩, castOf (core ++ [closing]), List.getLast?_concat, rfl⟩

theorem not_enclosed (h : Wrapped f core w) : ¬ Enclosed w := by
  rintro ⟨o, inner, c, heq, ho, _⟩
  have hhead : w.head? = some ⟨.variable, "$escaper"⟩ := by cases h <;> rfl
  rw [heq] at hhead
  obtain rfl : o = ⟨.variable, "$escaper"⟩ := Option.some.inj hhead
  cases ho

/-- A call around the core of a leaf is the core of a leaf. -/
theorem isLeaf {t : List Lexeme} (h : Wrapped f core w) (hleaf : IsLeaf t core u) :
    IsLeaf t w u := by
  have hbare : ∀ {test : Kind → Bool}, test .variable = false → test .objectOperator = false →
      test .identifier = false → test .cast = false → Bare test (t ++ (core ++ u)) →
      Bare test (t ++ (w ++ u)) := by
    intro test hvariable hoperator hidentifier hcast hbare
    obtain ⟨ht, hrest⟩ := (Bare.append_iff hleaf.before.balanced).mp hbare
    obtain ⟨_, hu⟩ := (Bare.append_iff hleaf.balanced).mp hrest
    exact (Bare.append_iff hleaf.before.balanced).mpr
      ⟨ht, (Bare.append_iff (h.balanced hleaf.balanced)).mpr
        ⟨h.bare hleaf.balanced hvariable hoperator hidentifier hcast, hu⟩⟩
  exact ⟨h.balanced hleaf.balanced, hleaf.before, hleaf.after, h.isCore, h.not_enclosed,
    hbare rfl rfl rfl rfl hleaf.inlineThen, hbare rfl rfl rfl rfl hleaf.concat⟩

end Wrapped

theorem isAllowedMethod_method (f : EscapeFunction) :
    RuleSet.standard.isAllowedMethod f.method = true := by
  cases f <;> decide +kernel

/-- A call of the escaper is escaped already. -/
theorem judge_escaperCall {s : Stream} {a : Nat} {f : EscapeFunction} {t core w u : List Lexeme}
    (h : Wrapped f core w) (hleaf : IsLeaf t core u) (hlies : s.Lies a (t ++ (w ++ u))) :
    s.judge .standard (leafAt a t w u) = .safe .alreadyEscaped := by
  have hb := hleaf.balanced
  have harith : outermost Kind.isArithmetic 0 0 (t ++ (w ++ u)) = [] := by
    have htrivia : ∀ k : Kind, k.isTrivia = true → k.isArithmetic = false := by
      intro k hk
      cases k <;> first | rfl | cases hk
    exact (Bare.append_iff hleaf.before.balanced).mpr ⟨hleaf.before.bare htrivia,
      (Bare.append_iff (h.balanced hb)).mpr ⟨h.bare hb rfl rfl rfl rfl, hleaf.after.bare htrivia⟩⟩
  have hmember : outermost Kind.isMemberAccess 0 0 (w ++ u) = [1] := by
    rw [h.outermost_eq hb hleaf.after (fun k hk => by cases k <;> first | rfl | cases hk) rfl]
    rfl
  obtain ⟨tail, hw, _⟩ := h.exists_tail hb
  have hhead : w.head? = some ⟨.variable, "$escaper"⟩ := by rw [hw]; rfl
  have hfind : findFrom isMember (w ++ u) 2 = some 2 := by
    rw [findFrom, firstFrom_eq_some_iff]
    refine ⟨Nat.le_refl 2, ?_, ?_, fun k hk hlt => by omega⟩
    · simp [hw, accessor]
    · rw [hw]
      rfl
  have hget : (w ++ u)[2]? = some ⟨.identifier, f.method⟩ := by rw [hw]; rfl
  rw [judge_eq (h.isLeaf hleaf) hlies, leafVerdict, harith, hhead]
  simp [Kind.category, memberVerdict, hmember, hfind, hget, isAllowedMethod_method]

end Stream

end EscapeAudit
