import EscapeAudit.Output.Statement
import EscapeAudit.Proofs.Matching

/-!
# Where leaves stand

Every range of a statement stands between two tokens that the splitting knows: the entry point, an
operator at which the range was cut off, a parenthesis, or the end of the statement.  Such a range
is called *framed*.  Splitting keeps ranges framed (`Framed.children`), so every leaf that is found
on the walk over a statement is framed (`framed_of_mem_leaves`).  The first and the last token of a
leaf have nothing but blanks and comments between them and the frame.
-/

namespace EscapeAudit

/-! ## First and last indices -/

theorem firstFrom_eq_some_iff {test : Nat → Bool} {i n j : Nat} :
    firstFrom test i n = some j ↔
      i ≤ j ∧ j < i + n ∧ test j = true ∧ ∀ k, i ≤ k → k < j → test k = false := by
  induction n generalizing i with
  | zero => simp [firstFrom]; omega
  | succ n ih =>
    rw [firstFrom]
    split
    · rename_i hi
      constructor
      · intro h
        obtain rfl := Option.some.inj h
        exact ⟨by omega, by omega, hi, fun k hk hlt => by omega⟩
      · rintro ⟨hle, _, hj, hbefore⟩
        by_cases heq : i = j
        · rw [heq]
        · have := hbefore i (by omega) (by omega)
          rw [hi] at this
          cases this
    · rename_i hi
      rw [ih]
      constructor
      · rintro ⟨hle, hlt, hj, hbefore⟩
        refine ⟨by omega, by omega, hj, fun k hk hkj => ?_⟩
        by_cases heq : k = i
        · rw [heq]
          exact (Bool.not_eq_true _).mp hi
        · exact hbefore k (by omega) hkj
      · rintro ⟨hle, hlt, hj, hbefore⟩
        have hne : i ≠ j := by rintro rfl; exact hi hj
        exact ⟨by omega, by omega, hj, fun k hk hkj => hbefore k (by omega) hkj⟩

theorem firstFrom_eq_none_iff {test : Nat → Bool} {i n : Nat} :
    firstFrom test i n = none ↔ ∀ k, i ≤ k → k < i + n → test k = false := by
  induction n generalizing i with
  | zero => simp [firstFrom]; omega
  | succ n ih =>
    rw [firstFrom]
    split
    · rename_i hi
      simp only [reduceCtorEq, false_iff]
      intro h
      have := h i (by omega) (by omega)
      rw [hi] at this
      cases this
    · rename_i hi
      rw [ih]
      constructor
      · intro h k hk hlt
        by_cases heq : k = i
        · rw [heq]
          exact (Bool.not_eq_true _).mp hi
        · exact h k (by omega) (by omega)
      · intro h k hk hlt
        exact h k (by omega) (by omega)

theorem lastFrom_eq_some_iff {test : Nat → Bool} {lo n j : Nat} :
    lastFrom test lo n = some j ↔
      lo ≤ j ∧ j < lo + n ∧ test j = true ∧ ∀ k, j < k → k < lo + n → test k = false := by
  induction n with
  | zero => simp [lastFrom]; omega
  | succ n ih =>
    rw [lastFrom]
    split
    · rename_i hn
      constructor
      · intro h
        obtain rfl := Option.some.inj h
        exact ⟨by omega, by omega, hn, fun k hk hlt => by omega⟩
      · rintro ⟨hle, hlt, hj, hafter⟩
        by_cases heq : lo + n = j
        · rw [heq]
        · have := hafter (lo + n) (by omega) (by omega)
          rw [hn] at this
          cases this
    · rename_i hn
      rw [ih]
      constructor
      · rintro ⟨hle, hlt, hj, hafter⟩
        refine ⟨hle, by omega, hj, fun k hk hkn => ?_⟩
        by_cases heq : k = lo + n
        · rw [heq]
          exact (Bool.not_eq_true _).mp hn
        · exact hafter k hk (by omega)
      · rintro ⟨hle, hlt, hj, hafter⟩
        have hne : j ≠ lo + n := by rintro rfl; exact hn hj
        exact ⟨hle, by omega, hj, fun k hk hkn => hafter k hk (by omega)⟩

theorem lastFrom_eq_none_iff {test : Nat → Bool} {lo n : Nat} :
    lastFrom test lo n = none ↔ ∀ k, lo ≤ k → k < lo + n → test k = false := by
  induction n with
  | zero => simp [lastFrom]; omega
  | succ n ih =>
    rw [lastFrom]
    split
    · rename_i hn
      simp only [reduceCtorEq, false_iff]
      intro h
      have := h (lo + n) (by omega) (by omega)
      rw [hn] at this
      cases this
    · rename_i hn
      rw [ih]
      constructor
      · intro h k hk hlt
        by_cases heq : k = lo + n
        · rw [heq]
          exact (Bool.not_eq_true _).mp hn
        · exact h k hk (by omega)
      · intro h k hk hlt
        exact h k hk (by omega)

namespace Stream

theorem holds_of_size_le {s : Stream} {test : Kind → Bool} {i : Nat} (h : s.size ≤ i) :
    s.holds test i = false := by
  have hnone : s.tokens[i]? = none := Array.getElem?_eq_none h
  simp [holds, hnone]

theorem lt_size_of_holds {s : Stream} {test : Kind → Bool} {i : Nat} (h : s.holds test i = true) :
    i < s.size := by
  by_cases hi : i < s.size
  · exact hi
  · rw [holds_of_size_le (by omega)] at h
    cases h

theorem findNext_eq_some_iff {s : Stream} {test : Kind → Bool} {start stop j : Nat} :
    s.findNext test start stop = some j ↔
      start ≤ j ∧ j < stop ∧ s.holds test j = true ∧
        ∀ k, start ≤ k → k < j → s.holds test k = false := by
  unfold findNext firstIn
  rw [firstFrom_eq_some_iff]
  constructor
  · rintro ⟨hle, hlt, hj, hbefore⟩
    exact ⟨hle, by omega, hj, hbefore⟩
  · rintro ⟨hle, hlt, hj, hbefore⟩
    have := lt_size_of_holds hj
    exact ⟨hle, by omega, hj, hbefore⟩

theorem findNext_eq_none_iff {s : Stream} {test : Kind → Bool} {start stop : Nat} :
    s.findNext test start stop = none ↔ ∀ k, start ≤ k → k < stop → s.holds test k = false := by
  unfold findNext firstIn
  rw [firstFrom_eq_none_iff]
  constructor
  · intro h k hk hlt
    by_cases hsize : k < s.size
    · exact h k hk (by omega)
    · exact holds_of_size_le (by omega)
  · intro h k hk hlt
    exact h k hk (by omega)

theorem findPrevious_eq_some_iff {s : Stream} {test : Kind → Bool} {start floor j : Nat} :
    s.findPrevious test start floor = some j ↔
      floor ≤ j ∧ j ≤ start ∧ s.holds test j = true ∧
        ∀ k, j < k → k ≤ start → s.holds test k = false := by
  unfold findPrevious lastIn
  rw [lastFrom_eq_some_iff]
  constructor
  · rintro ⟨hle, hlt, hj, hafter⟩
    refine ⟨hle, by omega, hj, fun k hk hstart => ?_⟩
    by_cases hsize : k < s.size
    · exact hafter k hk (by omega)
    · exact holds_of_size_le (by omega)
  · rintro ⟨hle, hstart, hj, hafter⟩
    have := lt_size_of_holds hj
    exact ⟨hle, by omega, hj, fun k hk hlt => hafter k hk (by omega)⟩

theorem findPrevious_eq_none_iff {s : Stream} {test : Kind → Bool} {start floor : Nat} :
    s.findPrevious test start floor = none ↔
      ∀ k, floor ≤ k → k ≤ start → s.holds test k = false := by
  unfold findPrevious lastIn
  rw [lastFrom_eq_none_iff]
  constructor
  · intro h k hk hstart
    by_cases hsize : k < s.size
    · exact h k hk (by omega)
    · exact holds_of_size_le (by omega)
  · intro h k hk hlt
    exact h k hk (by omega)

/-! ## The bounds of a range -/

/-- A token that is neither blank nor comment. -/
def isSolid (k : Kind) : Bool := !k.isTrivia

/-- The first and the last solid token of a range. -/
structure Bounds (s : Stream) (r : Range) (first last : Nat) : Prop where
  start_le : r.start ≤ first
  first_le : first ≤ last
  last_lt : last < r.stop
  first_solid : s.holds isSolid first = true
  last_solid : s.holds isSolid last = true
  before : ∀ k, r.start ≤ k → k < first → s.holds isSolid k = false
  after : ∀ k, last < k → k < r.stop → s.holds isSolid k = false

theorem bounds?_eq_some_iff {s : Stream} {r : Range} {first last : Nat} :
    s.bounds? r = some (first, last) ↔ s.Bounds r first last := by
  constructor
  · intro h
    unfold bounds? at h
    split at h
    · cases h
    · rename_i hempty
      have hlt : r.start < r.stop := by simpa [Range.isEmpty] using hempty
      split at h
      · cases h
      · rename_i f hfirst
        obtain ⟨l, hlast, heq⟩ := Option.map_eq_some_iff.mp h
        cases heq
        obtain ⟨hstart, hstop, hsolid, hbefore⟩ := findNext_eq_some_iff.mp hfirst
        obtain ⟨hfloor, hle, hlsolid, hafter⟩ := findPrevious_eq_some_iff.mp hlast
        exact ⟨hstart, hfloor, by omega, hsolid, hlsolid, hbefore,
          fun k hk hlt => hafter k hk (by omega)⟩
  · rintro ⟨hstart, hle, hstop, hsolid, hlsolid, hbefore, hafter⟩
    have hempty : ¬ r.isEmpty = true := by simp [Range.isEmpty]; omega
    have hfirst : s.findNext (fun k => !k.isTrivia) r.start r.stop = some first :=
      findNext_eq_some_iff.mpr ⟨hstart, by omega, hsolid, hbefore⟩
    have hlast : s.findPrevious (fun k => !k.isTrivia) (r.stop - 1) first = some last :=
      findPrevious_eq_some_iff.mpr
        ⟨hle, by omega, hlsolid, fun k hk hlt => hafter k hk (by omega)⟩
    rw [bounds?, if_neg hempty, hfirst]
    simp [hlast]

theorem bounds?_eq_none_iff {s : Stream} {r : Range} :
    s.bounds? r = none ↔ ∀ k, r.start ≤ k → k < r.stop → s.holds isSolid k = false := by
  constructor
  · intro h k hk hlt
    cases hsolid : s.holds isSolid k with
    | false => rfl
    | true =>
      exfalso
      unfold bounds? at h
      rw [if_neg (by simp [Range.isEmpty]; omega)] at h
      split at h
      · rename_i hnone
        have hfalse : s.holds isSolid k = false := findNext_eq_none_iff.mp hnone k hk hlt
        rw [hfalse] at hsolid
        cases hsolid
      · rename_i f hfirst
        obtain ⟨_, _, hf, _⟩ := findNext_eq_some_iff.mp hfirst
        have hnone := findPrevious_eq_none_iff.mp (Option.map_eq_none_iff.mp h)
        rw [hnone f (by omega) (by omega)] at hf
        cases hf
  · intro h
    cases hbounds : s.bounds? r with
    | none => rfl
    | some found =>
      have hb := bounds?_eq_some_iff.mp hbounds
      have := hb.start_le
      have := hb.first_le
      have := hb.last_lt
      have hsolid := hb.first_solid
      rw [h found.1 (by omega) (by omega)] at hsolid
      cases hsolid

/-! ## Tokens in scope -/

/-- A token in scope is a token of the range that passes the test. -/
theorem mem_inScopeFrom {s : Stream} {test : Kind → Bool} {stop i j : Nat} {found : Array Nat}
    (h : j ∈ s.inScopeFrom test stop i found) :
    j ∈ found ∨ i ≤ j ∧ j < stop ∧ s.holds test j = true := by
  fun_induction inScopeFrom s test stop i found with
  | case1 i found hlt hnone => exact .inl h
  | case2 i found hlt kind hkind htest ih =>
    rcases ih h with hmem | ⟨hle, hlt', hj⟩
    · rcases Array.mem_push.mp hmem with hmem | rfl
      · exact .inl hmem
      · exact .inr ⟨by omega, hlt, holds_iff.mpr ⟨kind, hkind, htest⟩⟩
    · exact .inr ⟨by omega, hlt', hj⟩
  | case3 i found hlt kind hkind htest hskip ih =>
    rcases ih h with hmem | ⟨hle, hlt', hj⟩
    · exact .inl hmem
    · exact .inr ⟨by omega, hlt', hj⟩
  | case4 i found hlt => exact .inl h

theorem mem_inScope {s : Stream} {test : Kind → Bool} {r : Range} {j : Nat}
    (h : j ∈ s.inScope test r) : r.start ≤ j ∧ j < r.stop ∧ s.holds test j = true := by
  rcases mem_inScopeFrom h with hmem | hmem
  · simp at hmem
  · exact hmem

theorem firstInScope_mem {s : Stream} {test : Kind → Bool} {r : Range} {j : Nat}
    (h : s.firstInScope test r = some j) : j ∈ s.inScope test r :=
  Array.mem_of_getElem? h

theorem lastInScope_mem {s : Stream} {test : Kind → Bool} {r : Range} {j : Nat}
    (h : s.lastInScope test r = some j) : j ∈ s.inScope test r :=
  Array.mem_of_back? h

end Stream

/-! ## Framed ranges -/

namespace Range

/-- The pieces of an interval between indices, one after another. -/
def pieces (start stop : Nat) : List Nat → List Range
  | [] => [⟨start, stop⟩]
  | cut :: cuts => ⟨start, cut⟩ :: pieces (cut + 1) stop cuts

theorem foldl_push_eq_pieces (stop : Nat) (cuts : List Nat) (start : Nat) (done : Array Range) :
    (let (start, done) := cuts.foldl
      (fun (start, done) cut => (cut + 1, done.push ⟨start, cut⟩)) (start, done)
     (done.push ⟨start, stop⟩).toList) = done.toList ++ pieces start stop cuts := by
  induction cuts generalizing start done with
  | nil => simp [pieces]
  | cons c cuts ih =>
    rw [List.foldl_cons, ih]
    simp [pieces]

theorem cutAt_eq_pieces (r : Range) (cuts : Array Nat) :
    r.cutAt cuts = pieces r.start r.stop cuts.toList := by
  have h := foldl_push_eq_pieces r.stop cuts.toList r.start #[]
  rw [Array.foldl_toList] at h
  simpa [cutAt] using h

theorem mem_pieces {start stop : Nat} {cuts : List Nat} {p : Range} (h : p ∈ pieces start stop cuts) :
    (p.start = start ∨ ∃ c ∈ cuts, p.start = c + 1) ∧ (p.stop = stop ∨ p.stop ∈ cuts) := by
  induction cuts generalizing start with
  | nil =>
    obtain rfl : p = ⟨start, stop⟩ := by simpa [pieces] using h
    exact ⟨.inl rfl, .inl rfl⟩
  | cons c cuts ih =>
    rcases List.mem_cons.mp h with rfl | h
    · exact ⟨.inl rfl, .inr (by simp)⟩
    · obtain ⟨hstart, hstop⟩ := ih h
      refine ⟨.inr ?_, ?_⟩
      · rcases hstart with hstart | ⟨d, hd, hstart⟩
        · exact ⟨c, by simp, hstart⟩
        · exact ⟨d, by simp [hd], hstart⟩
      · rcases hstop with hstop | hstop
        · exact .inl hstop
        · exact .inr (by simp [hstop])

end Range

namespace Stream

/-- The kinds in front of a range of a statement. -/
def opensRange : Kind → Bool
  | .echo | .print | .openTagWithEcho | .concat | .inlineThen | .inlineElse
  | .openParenthesis => true
  | _ => false

/-- The kinds behind a range of a statement. -/
def closesRange : Kind → Bool
  | .semicolon | .closeTag | .concat | .inlineElse | .closeParenthesis => true
  | _ => false

/-- A range of the statement that `entry` opens, between two tokens that the splitting knows. -/
structure Framed (s : Stream) (entry : Nat) (r : Range) : Prop where
  left : ∃ p, r.start = p + 1 ∧ s.holds opensRange p = true
  right : r.stop = s.size ∨ s.holds closesRange r.stop = true
  lower : entry < r.start
  upper : r.stop ≤ s.statementEnd entry

theorem holds_imp {s : Stream} {test other : Kind → Bool} {i : Nat} (h : s.holds test i = true)
    (himp : ∀ k, test k = true → other k = true) : s.holds other i = true := by
  obtain ⟨k, hk, htest⟩ := holds_iff.mp h
  exact holds_iff.mpr ⟨k, hk, himp k htest⟩

theorem isPair_iff {s : Stream} {first last : Nat} :
    s.isPair first last = true ↔
      s.kind? first = some .openParenthesis ∧ s.partner? first = some last := by
  simp [isPair]

/-- What splitting a range gives, in words. -/
theorem split_cases (s : Stream) (r : Range) :
    (s.split r = .skip) ∨
    (∃ first last, s.Bounds r first last ∧ s.isPair first last = true ∧
      s.split r = .unwrapped ⟨first + 1, last⟩) ∨
    (∃ then_ else_, then_ ∈ s.inScope (· == .inlineThen) r ∧
      else_ ∈ s.inScope (· == .inlineElse) ⟨then_ + 1, r.stop⟩ ∧
      s.split r = .pieces [⟨then_ + 1, else_⟩, ⟨else_ + 1, r.stop⟩]) ∨
    (s.split r = .pieces (r.cutAt (s.inScope (· == .concat) r))) ∨
    (∃ first last, s.Bounds r first last ∧ s.split r = .leaf ⟨r, first, last⟩) := by
  unfold split
  split
  · exact .inl rfl
  · rename_i first last hbounds
    have hb := bounds?_eq_some_iff.mp hbounds
    split
    · exact .inr (.inl ⟨first, last, hb, ‹_›, rfl⟩)
    · split
      · rename_i then_ hthen
        unfold branches
        split
        · rename_i else_ helse
          exact .inr (.inr (.inl ⟨then_, else_, lastInScope_mem hthen, firstInScope_mem helse, rfl⟩))
        · exact .inl rfl
      · dsimp only
        split
        · exact .inr (.inr (.inr (.inr ⟨first, last, hb, rfl⟩)))
        · exact .inr (.inr (.inr (.inl rfl)))

/-- Splitting a framed range gives framed ranges. -/
theorem Framed.children {ls : List Lexeme} {entry : Nat} {r : Range}
    (h : (ofLexemes ls).Framed entry r) :
    ∀ c ∈ ((ofLexemes ls).split r).children, (ofLexemes ls).Framed entry c := by
  rcases split_cases (ofLexemes ls) r with hsplit | ⟨first, last, hb, hpair, hsplit⟩ |
    ⟨then_, else_, hthen, helse, hsplit⟩ | hsplit | ⟨first, last, hb, hsplit⟩
  all_goals
    rw [hsplit]
    intro c hc
  · cases hc
  · obtain rfl : c = ⟨first + 1, last⟩ := by simpa [Split.children] using hc
    obtain ⟨hkind, hpartner⟩ := isPair_iff.mp hpair
    obtain ⟨_, hclose, _⟩ := partner?_opening hkind hpartner
    have := hb.start_le
    have := hb.last_lt
    have := h.lower
    have := h.upper
    exact ⟨⟨first, rfl, holds_iff.mpr ⟨_, hkind, rfl⟩⟩, .inr (holds_iff.mpr ⟨_, hclose, rfl⟩),
      by dsimp only; omega, by dsimp only; omega⟩
  · obtain ⟨hle, hlt, hholds⟩ := mem_inScope hthen
    obtain ⟨hle', hlt', hholds'⟩ := mem_inScope helse
    have hthen' : (ofLexemes ls).holds opensRange then_ = true :=
      holds_imp hholds fun k hk => by rw [beq_iff_eq.mp hk]; rfl
    have helse' : (ofLexemes ls).holds opensRange else_ = true :=
      holds_imp hholds' fun k hk => by rw [beq_iff_eq.mp hk]; rfl
    have hclose : (ofLexemes ls).holds closesRange else_ = true :=
      holds_imp hholds' fun k hk => by rw [beq_iff_eq.mp hk]; rfl
    have := h.lower
    have := h.upper
    dsimp only at hle' hlt'
    simp only [Split.children, List.mem_cons, List.not_mem_nil, or_false] at hc
    rcases hc with rfl | rfl
    · exact ⟨⟨then_, rfl, hthen'⟩, .inr hclose, by dsimp only; omega, by dsimp only; omega⟩
    · exact ⟨⟨else_, rfl, helse'⟩, h.right, by dsimp only; omega, by dsimp only; omega⟩
  · rw [Range.cutAt_eq_pieces] at hc
    obtain ⟨hstart, hstop⟩ := Range.mem_pieces hc
    have hcut : ∀ i ∈ (ofLexemes ls).inScope (· == .concat) r,
        r.start ≤ i ∧ i < r.stop ∧ (ofLexemes ls).holds opensRange i = true ∧
          (ofLexemes ls).holds closesRange i = true := by
      intro i hi
      obtain ⟨hle, hlt, hholds⟩ := mem_inScope hi
      exact ⟨hle, hlt, holds_imp hholds fun k hk => by rw [beq_iff_eq.mp hk]; rfl,
        holds_imp hholds fun k hk => by rw [beq_iff_eq.mp hk]; rfl⟩
    have := h.lower
    have := h.upper
    refine ⟨?_, ?_, ?_, ?_⟩
    · rcases hstart with hstart | ⟨i, hi, hstart⟩
      · rw [hstart]
        exact h.left
      · exact ⟨i, hstart, (hcut i (by simpa using hi)).2.2.1⟩
    · rcases hstop with hstop | hi
      · rw [hstop]
        exact h.right
      · exact .inr (hcut _ (by simpa using hi)).2.2.2
    · rcases hstart with hstart | ⟨i, hi, hstart⟩
      · omega
      · have := hcut i (by simpa using hi)
        omega
    · rcases hstop with hstop | hi
      · omega
      · have := hcut _ (by simpa using hi)
        omega
  · cases hc

/-- The range of a statement is framed. -/
theorem framed_statementRange {s : Stream} {entry : Nat}
    (h : s.holds Kind.isEntryPoint entry = true) : s.Framed entry (s.statementRange entry) := by
  refine ⟨⟨entry, rfl, holds_imp h fun k hk => ?_⟩, ?_, Nat.lt_succ_self entry, Nat.le_refl _⟩
  · revert hk
    cases k <;> first | exact fun _ => rfl | exact fun h => by cases h
  · show s.statementEnd entry = s.size ∨ s.holds closesRange (s.statementEnd entry) = true
    unfold statementEnd
    cases hend : s.findNext endsStatement entry s.size with
    | none => exact .inl rfl
    | some j =>
      refine .inr (holds_imp (findNext_eq_some_iff.mp hend).2.2.1 fun k hk => ?_)
      revert hk
      cases k <;> first | exact fun _ => rfl | exact fun h => by cases h

/-! ## Leaves -/

/-- Every result of a walk comes from splitting a range that splitting leads to. -/
theorem mem_splits_walk {s : Stream} {P : Range → Prop}
    (hchildren : ∀ r, P r → ∀ c ∈ (s.split r).children, P c) {budget : Nat} {queue : Queue Range}
    (hqueue : ∀ r ∈ queue.toList, P r) :
    ∀ split ∈ (s.walk budget queue).splits, ∃ r, P r ∧ s.split r = split := by
  induction budget generalizing queue with
  | zero =>
    unfold walk
    split <;> simp
  | succ budget ih =>
    unfold walk
    split
    · simp
    · rename_i r rest hpop
      have hlist := Queue.toList_of_pop? hpop
      have hr : P r := hqueue r (by simp [hlist])
      intro split hsplit
      rcases List.mem_cons.mp hsplit with rfl | hsplit
      · exact ⟨r, hr, rfl⟩
      · refine ih ?_ split hsplit
        intro c hc
        rw [Queue.toList_pushAll, List.mem_append] at hc
        rcases hc with hc | hc
        · exact hqueue c (by simp [hlist, hc])
        · exact hchildren r hr c hc

/-- The walk over a statement. -/
def statementWalk (s : Stream) (entry : Nat) : Walk :=
  s.walk Limits.rangesPerStatement (.single (s.statementRange entry))

/-- A leaf of a statement is framed and has its bounds. -/
theorem framed_of_mem_leaves {ls : List Lexeme} {entry : Nat}
    (hentry : (ofLexemes ls).holds Kind.isEntryPoint entry = true) {l : Leaf}
    (h : l ∈ ((ofLexemes ls).statementWalk entry).leaves) :
    (ofLexemes ls).Framed entry l.range ∧ (ofLexemes ls).Bounds l.range l.first l.last := by
  obtain ⟨split, hmem, hleaf⟩ := List.mem_filterMap.mp h
  obtain ⟨r, hr, hsplit⟩ := mem_splits_walk (fun r hr => Framed.children hr)
    (by simpa [Queue.toList_single] using framed_statementRange hentry) split hmem
  cases split with
  | skip => cases hleaf
  | unwrapped => cases hleaf
  | pieces => cases hleaf
  | leaf m =>
    obtain rfl : m = l := Option.some.inj hleaf
    rcases split_cases (ofLexemes ls) r with hcase | ⟨_, _, _, _, hcase⟩ | ⟨_, _, _, _, hcase⟩ |
      hcase | ⟨first, last, hb, hcase⟩
    all_goals rw [hsplit] at hcase
    · cases hcase
    · cases hcase
    · cases hcase
    · cases hcase
    · cases hcase
      exact ⟨hr, hb⟩

end Stream

end EscapeAudit
