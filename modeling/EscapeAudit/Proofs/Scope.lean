import EscapeAudit.Proofs.Pairing
import EscapeAudit.Proofs.SplitTree
import Mathlib.Order.Bounds.Basic

/-!
# Searching in scope

The walk over a range jumps behind the partner of every opening parenthesis that it meets.  So it
only stands at tokens that no pair of the range reaches over (`Clear`): a jump cannot land inside a
pair that opened on the way, because that pair is nested in the one that was jumped over
(`Clear.skip`).  And it jumps over no token in scope.  What it finds are therefore the tokens in scope
whose kind passes the test, all of them and no others (`mem_inScope_iff`).

Since it finds them in increasing order, the first one is the least and the last one is the greatest
(`scope_search_exact`).  The last one is also where searching again behind each token found ends
(`lastInScope_eq_lastFound`).
-/

namespace EscapeAudit

namespace Stream

/-- The tokens in scope of a range whose kind passes the test. -/
def scope (s : Stream) (test : Kind → Bool) (r : Range) : Set Nat :=
  { i | s.InScope r i ∧ s.holds test i = true }

/-! ## The walk stays in scope -/

/-- No pair that opens from `start` on reaches up to a token. -/
def Clear (s : Stream) (start i : Nat) : Prop :=
  ∀ o j, s.kind? o = some .openParenthesis → s.partner? o = some j → start ≤ o → o < i → j < i

theorem clear_start (s : Stream) (start : Nat) : s.Clear start start := by
  intro o j _ _ hstart hlt
  omega

variable {s : Stream}

/-- A jump lands where no pair reaches. -/
theorem Clear.skip (hp : Pairing s.kind? s.partner?) {start i : Nat} (h : s.Clear start i) :
    s.Clear start (s.skip i) := by
  intro o j hkind hpartner hstart hlt
  have hnext := s.lt_skip i
  rcases Nat.lt_trichotomy o i with hoi | rfl | hio
  · have := h o j hkind hpartner hstart hoi
    omega
  · obtain ⟨hoj, _⟩ := hp.lt_of_opening hkind hpartner
    rw [skip_opening hkind hpartner hoj]
    omega
  · -- The jump was over a pair, and `o` opens inside it.
    by_cases hopen : s.kind? i = some .openParenthesis
    · cases hi : s.partner? i with
      | none =>
        simp only [Stream.skip, hopen, hi] at hlt
        omega
      | some c =>
        obtain ⟨hic, hclose⟩ := hp.lt_of_opening hopen hi
        rw [skip_opening hopen hi hic] at hlt ⊢
        have hoc : o ≠ c := by
          rintro rfl
          rw [hkind] at hclose
          cases hclose
        obtain ⟨hoj, _⟩ := hp.lt_of_opening hkind hpartner
        rcases hp.nested i c o j hic hoj hi hpartner hio with hjc | hco
        · omega
        · omega
    · rw [skip_of_ne hopen] at hlt
      omega

theorem inScope_of_mem_inScopeFrom {test : Kind → Bool} (htest : test .openParenthesis = false)
    (hp : Pairing s.kind? s.partner?) {r : Range} {i j : Nat} {found : Array Nat}
    (hstart : r.start ≤ i) (hclear : s.Clear r.start i) (hfound : ∀ k ∈ found, s.InScope r k)
    (h : j ∈ s.inScopeFrom test r.stop i found) : s.InScope r j := by
  fun_induction inScopeFrom s test r.stop i found with
  | case1 => exact hfound j h
  | case2 i found hlt kind hkind hpass ih =>
    have hne : s.kind? i ≠ some .openParenthesis := by
      intro hopen
      rw [hkind, Option.some.injEq] at hopen
      rw [hopen, htest] at hpass
      cases hpass
    refine ih (by omega) (skip_of_ne hne ▸ hclear.skip hp) (fun k hk => ?_) h
    rcases Array.mem_push.mp hk with hk | rfl
    · exact hfound k hk
    · exact ⟨hstart, hlt, hclear⟩
  | case3 i found hlt kind hkind hpass hnext ih =>
    exact ih (by omega) (hclear.skip hp) hfound h
  | case4 => exact hfound j h

/-- A walk finds the tokens in scope whose kind passes the test. -/
theorem mem_inScope_iff {test : Kind → Bool} (htest : test .openParenthesis = false)
    (hp : Pairing s.kind? s.partner?) {r : Range} {j : Nat} :
    j ∈ s.inScope test r ↔ j ∈ s.scope test r := by
  constructor
  · intro h
    exact ⟨inScope_of_mem_inScopeFrom htest hp (Nat.le_refl _) (s.clear_start r.start) (by simp) h,
      (mem_inScope h).2.2⟩
  · rintro ⟨hscope, hpass⟩
    exact mem_inScope_of_inScope hscope hpass

/-! ## Searching again behind each token found -/

theorem inScopeFrom_eq_append (s : Stream) (test : Kind → Bool) (stop i : Nat)
    (found : Array Nat) :
    s.inScopeFrom test stop i found = found ++ s.inScopeFrom test stop i #[] := by
  induction hn : stop - i using Nat.strong_induction_on generalizing i found with
  | _ n ih =>
    have hskip := s.lt_skip i
    conv => lhs; rw [inScopeFrom]
    conv => rhs; rw [inScopeFrom]
    split
    · split
      · simp
      · split
        · rw [ih _ (by omega) (i + 1) (found.push i) rfl, ih _ (by omega) (i + 1) (#[].push i) rfl]
          simp
        · exact ih _ (by omega) (s.skip i) found rfl
    · simp

/-- Nothing is found, or behind the first token found the search goes on as from the beginning. -/
theorem inScope_cases (s : Stream) (test : Kind → Bool) (stop i : Nat) :
    s.inScope test ⟨i, stop⟩ = #[] ∨
      ∃ first, s.inScope test ⟨i, stop⟩ = #[first] ++ s.inScope test ⟨first + 1, stop⟩ := by
  have hcases : ∀ found, s.inScopeFrom test stop i found = found ∨
      ∃ first, s.inScopeFrom test stop i found =
        found.push first ++ s.inScopeFrom test stop (first + 1) #[] := by
    intro found
    fun_induction inScopeFrom s test stop i found with
    | case1 => exact .inl rfl
    | case2 i found => exact .inr ⟨i, inScopeFrom_eq_append _ _ _ _ _⟩
    | case3 _ _ _ _ _ _ _ ih => exact ih
    | case4 => exact .inl rfl
  exact hcases #[]

theorem firstInScope_bounds {s : Stream} {test : Kind → Bool} {r : Range} {i : Nat}
    (h : s.firstInScope test r = some i) : r.start ≤ i ∧ i < r.stop :=
  have hmem := mem_inScope (Array.mem_of_getElem? h)
  ⟨hmem.1, hmem.2.1⟩

/-- The last token that is found by searching for the first one again and again, each time behind the
one found before. -/
def lastFound (s : Stream) (test : Kind → Bool) (stop i : Nat) (last : Option Nat) : Option Nat :=
  match h : s.firstInScope test ⟨i, stop⟩ with
  | none => last
  | some found => s.lastFound test stop (found + 1) (some found)
termination_by stop - i
decreasing_by
  obtain ⟨hle, hlt⟩ := firstInScope_bounds h
  dsimp only at hle hlt
  omega

theorem lastFound_eq (s : Stream) (test : Kind → Bool) (stop i : Nat) (last : Option Nat) :
    s.lastFound test stop i last = (s.lastInScope test ⟨i, stop⟩).or last := by
  fun_induction lastFound s test stop i last with
  | case1 i last hnone =>
    have hempty : s.inScope test ⟨i, stop⟩ = #[] := by
      rwa [firstInScope, Array.getElem?_eq_none_iff, Nat.le_zero, Array.size_eq_zero_iff] at hnone
    rw [lastInScope, hempty]
    rfl
  | case2 i last found hfound ih =>
    rw [ih]
    rcases inScope_cases s test stop i with hempty | ⟨first, hsome⟩
    · rw [firstInScope, hempty] at hfound
      cases hfound
    · rw [firstInScope, hsome, Array.getElem?_append_left (by simp)] at hfound
      obtain rfl : first = found := Option.some.inj hfound
      rw [lastInScope, lastInScope, hsome, Array.back?_append, Option.or_assoc]
      rfl

/-- Searching again behind each token found ends at the last token in scope. -/
theorem lastInScope_eq_lastFound (s : Stream) (test : Kind → Bool) (r : Range) :
    s.lastInScope test r = s.lastFound test r.stop r.start none := by
  rw [lastFound_eq, Option.or_none]

end Stream

/-! ## The first and the last -/

section Extremes

variable {xs : Array Nat} {i : Nat}

/-- The first number of an increasing sequence is the least. -/
theorem getElem?_zero_iff_isLeast (h : xs.toList.Pairwise (· < ·)) :
    xs[0]? = some i ↔ IsLeast { j | j ∈ xs } i := by
  have hleast : ∀ {i}, xs[0]? = some i → IsLeast { j | j ∈ xs } i := by
    intro i hi
    refine ⟨Array.mem_of_getElem? hi, fun j hj => ?_⟩
    obtain ⟨n, hn, rfl⟩ := Array.mem_iff_getElem.mp hj
    obtain ⟨hpos, rfl⟩ := Array.getElem?_eq_some_iff.mp hi
    rcases Nat.eq_zero_or_pos n with rfl | hlt
    · exact Nat.le_refl _
    · exact Nat.le_of_lt (List.pairwise_iff_getElem.mp h 0 n hpos hn hlt)
  refine ⟨hleast, fun hi => ?_⟩
  have hpos : 0 < xs.size := Array.size_pos_of_mem hi.1
  have hfirst := Array.getElem?_eq_getElem hpos
  rw [hfirst, (hleast hfirst).unique hi]

/-- The last number of an increasing sequence is the greatest. -/
theorem back?_iff_isGreatest (h : xs.toList.Pairwise (· < ·)) :
    xs.back? = some i ↔ IsGreatest { j | j ∈ xs } i := by
  have hgreatest : ∀ {i}, xs.back? = some i → IsGreatest { j | j ∈ xs } i := by
    intro i hi
    refine ⟨Array.mem_of_back? hi, fun j hj => ?_⟩
    obtain ⟨n, hn, rfl⟩ := Array.mem_iff_getElem.mp hj
    rw [Array.back?_eq_getElem?] at hi
    obtain ⟨hlast, rfl⟩ := Array.getElem?_eq_some_iff.mp hi
    rcases Nat.lt_or_ge n (xs.size - 1) with hlt | hge
    · exact Nat.le_of_lt (List.pairwise_iff_getElem.mp h n (xs.size - 1) hn hlast hlt)
    · obtain rfl : n = xs.size - 1 := by omega
      exact Nat.le_refl _
  refine ⟨hgreatest, fun hi => ?_⟩
  have hpos : 0 < xs.size := Array.size_pos_of_mem hi.1
  have hlast : xs.back? = some xs[xs.size - 1] := by
    rw [Array.back?_eq_getElem?, Array.getElem?_eq_getElem]
  rw [hlast, (hgreatest hlast).unique hi]

end Extremes

/-- The search for the first token in scope gives the least one whose kind passes the test, the
search for the last one gives the greatest, and both give nothing exactly where there is none. -/
theorem scope_search_exact (ls : List Lexeme) (r : Range) (test : Kind → Bool)
    (htest : test .openParenthesis = false) :
    (∀ i, (Stream.ofLexemes ls).firstInScope test r = some i ↔
      IsLeast ((Stream.ofLexemes ls).scope test r) i) ∧
    (∀ i, (Stream.ofLexemes ls).lastInScope test r = some i ↔
      IsGreatest ((Stream.ofLexemes ls).scope test r) i) ∧
    ((Stream.ofLexemes ls).firstInScope test r = none ↔
      (Stream.ofLexemes ls).scope test r = ∅) ∧
    ((Stream.ofLexemes ls).lastInScope test r = none ↔
      (Stream.ofLexemes ls).scope test r = ∅) := by
  obtain ⟨s, hs⟩ : ∃ s, s = Stream.ofLexemes ls := ⟨_, rfl⟩
  have hp : Pairing s.kind? s.partner? := hs ▸ Stream.pairing_ofLexemes ls
  rw [← hs]
  have hscope : s.scope test r = { i | i ∈ s.inScope test r } :=
    Set.ext fun i => (Stream.mem_inScope_iff htest hp).symm
  have hsorted := s.pairwise_inScope test r
  have hempty : s.scope test r = ∅ ↔ s.inScope test r = #[] := by
    rw [hscope, Set.eq_empty_iff_forall_notMem, Array.eq_empty_iff_forall_not_mem]
    rfl
  refine ⟨fun i => ?_, fun i => ?_, ?_, ?_⟩
  · rw [hscope]
    exact getElem?_zero_iff_isLeast hsorted
  · rw [hscope]
    exact back?_iff_isGreatest hsorted
  · rw [hempty, Stream.firstInScope, Array.getElem?_eq_none_iff, Nat.le_zero, Array.size_eq_zero_iff]
  · rw [hempty, Stream.lastInScope, Array.back?_eq_none_iff]

/-- `( . ( . ) . ) ( .`, where the last parenthesis is alone. -/
def unevenGroups : List Lexeme :=
  [⟨.openParenthesis, "("⟩, ⟨.concat, "."⟩, ⟨.openParenthesis, "("⟩, ⟨.concat, "."⟩,
   ⟨.closeParenthesis, ")"⟩, ⟨.concat, "."⟩, ⟨.closeParenthesis, ")"⟩, ⟨.openParenthesis, "("⟩,
   ⟨.concat, "."⟩]

/-- From behind the first parenthesis on, the inner group is skipped, and the parentheses whose
partner is not in the range are tokens like any other.  A range that ends inside the group has
nothing in scope behind the parenthesis that opens it. -/
theorem scope_search_exact_groups :
    (Kind.openParenthesis == Kind.concat) = false ∧
    IsLeast ((Stream.ofLexemes unevenGroups).scope (· == .concat) ⟨1, 9⟩) 1 ∧
    IsGreatest ((Stream.ofLexemes unevenGroups).scope (· == .concat) ⟨1, 9⟩) 8 ∧
    (Stream.ofLexemes unevenGroups).scope (· == .concat) ⟨2, 4⟩ = ∅ := by
  obtain ⟨hfirst, hlast, _⟩ := scope_search_exact unevenGroups ⟨1, 9⟩ (· == .concat) rfl
  obtain ⟨_, _, hnone, _⟩ := scope_search_exact unevenGroups ⟨2, 4⟩ (· == .concat) rfl
  exact ⟨rfl, (hfirst 1).mp (by decide +kernel), (hlast 8).mp (by decide +kernel),
    hnone.mp (by decide +kernel)⟩

end EscapeAudit
