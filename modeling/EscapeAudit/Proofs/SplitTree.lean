import EscapeAudit.Proofs.Findings
import EscapeAudit.Proofs.Walk

/-!
# The tree of a statement

Splitting the range of a statement again and again gives a tree (`Stream.splitTree`).  The recursion
ends because every range is split into shorter ones (`children_shorter`).  The walk over a statement
does not build the tree: it takes ranges from a queue and puts what they are split into at the end.
Here the two are compared.  A walk that is not cut short finds the leaves of the tree, each of them
once (`perm_leaves_walkFrom`), and it finds them level by level (`leaves_walkFrom_eq_levels`).  The
leaves of a tree, and so those of each level, stand in the order of the template
(`pairwise_leaves_splitTree`).
-/

namespace EscapeAudit

/-- What a range is split into, down to the leaves. -/
inductive SplitTree where
  /-- Nothing to look at. -/
  | skip
  /-- What is inside of a pair of parentheses. -/
  | unwrapped (inner : SplitTree)
  /-- The pieces in order. -/
  | pieces (parts : List SplitTree)
  /-- A range that cannot be split. -/
  | leaf (l : Leaf)

namespace SplitTree

mutual

/-- The leaves of a tree from left to right. -/
def leaves : SplitTree → List Leaf
  | skip => []
  | unwrapped inner => inner.leaves
  | pieces parts => leavesOf parts
  | leaf l => [l]

/-- The leaves of trees one after another. -/
def leavesOf : List SplitTree → List Leaf
  | [] => []
  | t :: ts => t.leaves ++ leavesOf ts

end

/-- The leaves at a depth from left to right. -/
def leavesAt : SplitTree → (depth : Nat) → List Leaf
  | leaf l, 0 => [l]
  | unwrapped inner, depth + 1 => inner.leavesAt depth
  | pieces parts, depth + 1 => parts.flatMap fun t => t.leavesAt depth
  | _, _ => []

/-- The leaves at less than a depth, level by level. -/
def levels (t : SplitTree) (depth : Nat) : List Leaf :=
  (List.range depth).flatMap t.leavesAt

theorem leavesOf_eq (ts : List SplitTree) : leavesOf ts = ts.flatMap leaves := by
  induction ts with
  | nil => rfl
  | cons t ts ih => rw [leavesOf, ih, List.flatMap_cons]

/-- The leaves of one level are some of the leaves, in the same order. -/
theorem leavesAt_sublist (t : SplitTree) (depth : Nat) : (t.leavesAt depth).Sublist t.leaves := by
  induction depth generalizing t with
  | zero => cases t <;> simp [leavesAt, leaves]
  | succ depth ih =>
    cases t with
    | skip => exact .slnil
    | leaf => exact List.nil_sublist _
    | unwrapped inner => exact ih inner
    | pieces parts =>
      rw [leavesAt, leaves, leavesOf_eq]
      induction parts with
      | nil => exact .slnil
      | cons t ts ihts =>
        rw [List.flatMap_cons, List.flatMap_cons]
        exact (ih t).append ihts

end SplitTree

namespace Range

/-- The number of its indices. -/
def length (r : Range) : Nat := r.stop - r.start

theorem length_pieces_lt {start stop : Nat} {cuts : List Nat} {p : Range}
    (hcuts : ∀ c ∈ cuts, start ≤ c ∧ c < stop) (hne : cuts ≠ []) (hp : p ∈ pieces start stop cuts) :
    p.length < stop - start := by
  cases cuts with
  | nil => cases hne rfl
  | cons c cuts =>
    obtain ⟨hstart, hstop⟩ := hcuts c (by simp)
    rcases List.mem_cons.mp hp with rfl | hp
    · simp only [length]
      omega
    · obtain ⟨hbegin, hend⟩ := mem_pieces hp
      have hstart' : start < p.start := by
        rcases hbegin with hbegin | ⟨d, hd, hbegin⟩
        · omega
        · have := hcuts d (by simp [hd])
          omega
      have hstop' : p.stop ≤ stop := by
        rcases hend with hend | hend
        · omega
        · have := hcuts p.stop (by simp [hend])
          omega
      simp only [length]
      omega

end Range

namespace Stream

/-! ## The tree of a range -/

/-- A range that is cut at its concatenations has one. -/
theorem inScope_ne_nil_of_cutAt {s : Stream} {r : Range}
    (h : s.split r = .pieces (r.cutAt (s.inScope (· == .concat) r))) :
    (s.inScope (· == .concat) r).toList ≠ [] := by
  intro hnil
  rw [Range.cutAt_eq_pieces, hnil] at h
  unfold split branches at h
  split at h
  · cases h
  · split at h
    · cases h
    · split at h
      · split at h <;> simp [Range.pieces] at h
      · rw [if_pos (by simpa using hnil)] at h
        cases h

/-- Every range is split into shorter ones. -/
theorem children_shorter {s : Stream} {r c : Range} (h : c ∈ (s.split r).children) :
    c.length < r.length := by
  rcases split_cases s r with hsplit | ⟨first, last, hb, _, hsplit⟩ |
    ⟨then_, else_, hthen, helse, hsplit⟩ | hsplit | ⟨first, last, _, hsplit⟩
  · rw [hsplit] at h
    cases h
  · rw [hsplit] at h
    obtain rfl : c = ⟨first + 1, last⟩ := by simpa [Split.children] using h
    have := hb.start_le
    have := hb.first_le
    have := hb.last_lt
    simp only [Range.length]
    omega
  · rw [hsplit] at h
    obtain ⟨hle, hlt, _⟩ := mem_inScope hthen
    obtain ⟨hle', hlt', _⟩ := mem_inScope helse
    dsimp only at hle' hlt'
    simp only [Split.children, List.mem_cons, List.not_mem_nil, or_false] at h
    rcases h with rfl | rfl <;> simp only [Range.length] <;> omega
  · have hne := inScope_ne_nil_of_cutAt hsplit
    rw [hsplit, Split.children, Range.cutAt_eq_pieces] at h
    refine Range.length_pieces_lt (fun i hi => ?_) hne h
    obtain ⟨hle, hlt, _⟩ := mem_inScope (Array.mem_toList_iff.mp hi)
    exact ⟨hle, hlt⟩
  · rw [hsplit] at h
    cases h

/-- What a range is split into, and what that is split into, down to the leaves. -/
def splitTree (s : Stream) (r : Range) : SplitTree :=
  match h : s.split r with
  | .skip => .skip
  | .unwrapped inner =>
    have : inner.length < r.length := children_shorter (by rw [h]; exact List.mem_singleton_self _)
    .unwrapped (s.splitTree inner)
  | .pieces ranges =>
    .pieces (ranges.attach.map fun ⟨piece, hpiece⟩ =>
      have : piece.length < r.length := children_shorter (by rw [h]; exact hpiece)
      s.splitTree piece)
  | .leaf l => .leaf l
termination_by r.length

section SplitTree

variable (s : Stream) (r : Range)

theorem splitTree_eq :
    s.splitTree r =
      match s.split r with
      | .skip => .skip
      | .unwrapped inner => .unwrapped (s.splitTree inner)
      | .pieces ranges => .pieces (ranges.map s.splitTree)
      | .leaf l => .leaf l := by
  rw [splitTree]
  split <;> simp_all

theorem leaves_splitTree :
    (s.splitTree r).leaves =
      (s.split r).leaf?.toList ++ (s.split r).children.flatMap fun c => (s.splitTree c).leaves := by
  rw [splitTree_eq]
  cases s.split r <;>
    simp [SplitTree.leaves, SplitTree.leavesOf_eq, Split.leaf?, Split.children, List.flatMap_map]

theorem leavesAt_splitTree_zero : (s.splitTree r).leavesAt 0 = (s.split r).leaf?.toList := by
  rw [splitTree_eq]
  cases s.split r <;> rfl

theorem leavesAt_splitTree_succ (depth : Nat) :
    (s.splitTree r).leavesAt (depth + 1) =
      (s.split r).children.flatMap fun c => (s.splitTree c).leavesAt depth := by
  rw [splitTree_eq]
  cases s.split r <;> simp [SplitTree.leavesAt, Split.children, List.flatMap_map]

end SplitTree

theorem range_eq_of_leaf {s : Stream} {r : Range} {l : Leaf} (h : s.split r = .leaf l) :
    l.range = r := by
  rcases split_cases s r with hsplit | ⟨_, _, _, _, hsplit⟩ | ⟨_, _, _, _, hsplit⟩ | hsplit |
    ⟨first, last, hb, hsplit⟩
  all_goals rw [h] at hsplit; cases hsplit
  rfl

/-- A leaf of a tree is a range within that cannot be split. -/
theorem mem_leaves_splitTree {s : Stream} {r : Range} {l : Leaf} (h : l ∈ (s.splitTree r).leaves) :
    s.split l.range = .leaf l ∧ r.start ≤ l.range.start ∧ l.range.stop ≤ r.stop := by
  induction hn : r.length using Nat.strongRecOn generalizing r with
  | _ n ih =>
    subst hn
    rw [leaves_splitTree, List.mem_append, Option.mem_toList, List.mem_flatMap] at h
    rcases h with h | ⟨c, hc, h⟩
    · have hsplit := Split.leaf?_eq_some_iff.mp h
      obtain rfl := range_eq_of_leaf hsplit
      exact ⟨hsplit, Nat.le_refl _, Nat.le_refl _⟩
    · obtain ⟨hsplit, hstart, hstop⟩ := ih c.length (children_shorter hc) h rfl
      obtain ⟨hstart', hstop'⟩ := children_within hc
      exact ⟨hsplit, by omega, by omega⟩

/-- The leaves of a tree stand in the order of the template. -/
theorem pairwise_leaves_splitTree (s : Stream) (r : Range) :
    (s.splitTree r).leaves.Pairwise fun l l' => l.range.Before l'.range := by
  induction hn : r.length using Nat.strongRecOn generalizing r with
  | _ n ih =>
    subst hn
    rw [leaves_splitTree]
    have hchildren : ((s.split r).children.flatMap fun c => (s.splitTree c).leaves).Pairwise
        fun l l' => l.range.Before l'.range := by
      refine List.pairwise_flatMap.mpr ⟨fun c hc => ih _ (children_shorter hc) c rfl, ?_⟩
      refine (s.pairwise_children r).imp fun {c c'} hbefore l hl l' hl' => ?_
      obtain ⟨_, _, hstop⟩ := mem_leaves_splitTree hl
      obtain ⟨_, hstart, _⟩ := mem_leaves_splitTree hl'
      exact Nat.le_trans hstop (Nat.le_trans hbefore hstart)
    cases hleaf : (s.split r).leaf? with
    | none => exact hchildren
    | some l =>
      rw [Split.leaf?_eq_some_iff.mp hleaf]
      exact List.pairwise_singleton _ _

/-! ## The walk and the tree -/

/-- A walk that is not cut short finds the leaves of the trees. -/
theorem perm_leaves_walkFrom {s : Stream} {budget : Nat} {rs : List Range}
    (hcut : (s.walkFrom budget rs).cutShort = false) :
    (s.walkFrom budget rs).leaves.Perm (rs.flatMap fun r => (s.splitTree r).leaves) := by
  induction budget generalizing rs with
  | zero =>
    cases rs with
    | nil => exact .nil
    | cons => cases hcut
  | succ budget ih =>
    cases rs with
    | nil => exact .nil
    | cons r rs =>
      rw [leaves_walkFrom_cons, List.flatMap_cons, leaves_splitTree, List.append_assoc]
      refine List.Perm.append_left _ ((ih hcut).trans ?_)
      rw [List.flatMap_append]
      exact List.perm_append_comm

/-- A walk looks at the ranges in front before it looks at what they are split into. -/
theorem leaves_walkFrom_append {s : Stream} {budget : Nat} (rs next : List Range)
    (hcut : (s.walkFrom budget (rs ++ next)).cutShort = false) :
    ∃ rest, (s.walkFrom rest (next ++ rs.flatMap fun r => (s.split r).children)).cutShort = false ∧
      (s.walkFrom budget (rs ++ next)).leaves =
        (rs.flatMap fun r => (s.split r).leaf?.toList) ++
          (s.walkFrom rest (next ++ rs.flatMap fun r => (s.split r).children)).leaves := by
  induction rs generalizing budget next with
  | nil => exact ⟨budget, by simpa using hcut, by simp⟩
  | cons r rs ih =>
    cases budget with
    | zero => cases hcut
    | succ budget =>
      have hcut' : (s.walkFrom budget (rs ++ (next ++ (s.split r).children))).cutShort = false := by
        rw [← List.append_assoc]
        exact hcut
      obtain ⟨rest, hrest, hleaves⟩ := ih _ hcut'
      refine ⟨rest, by simpa using hrest, ?_⟩
      rw [List.cons_append, leaves_walkFrom_cons, List.append_assoc, hleaves]
      simp

/-- A walk that is not cut short finds the leaves level by level. -/
theorem leaves_walkFrom_eq_levels {s : Stream} {budget : Nat} {rs : List Range} {n : Nat}
    (hcut : (s.walkFrom budget rs).cutShort = false) (hn : ∀ r ∈ rs, r.length < n) :
    (s.walkFrom budget rs).leaves =
      (List.range n).flatMap fun depth => rs.flatMap fun r => (s.splitTree r).leavesAt depth := by
  -- Each round takes one level from the queue, and what stands there then is shorter.
  induction n generalizing budget rs with
  | zero =>
    cases rs with
    | nil => cases budget <;> rfl
    | cons r rs => exact absurd (hn r (by simp)) (Nat.not_lt_zero _)
  | succ n ih =>
    obtain ⟨rest, hrest, hleaves⟩ := leaves_walkFrom_append rs [] (by rwa [List.append_nil])
    have hshorter : ∀ c ∈ rs.flatMap fun r => (s.split r).children, c.length < n := by
      intro c hc
      obtain ⟨r, hr, hc⟩ := List.mem_flatMap.mp hc
      have := children_shorter hc
      have := hn r hr
      omega
    rw [List.nil_append] at hrest
    rw [List.append_nil, List.nil_append] at hleaves
    rw [hleaves, ih hrest hshorter, List.range_succ_eq_map, List.flatMap_cons, List.flatMap_map]
    simp only [leavesAt_splitTree_zero, leavesAt_splitTree_succ, List.flatMap_assoc]

/-! ## Leaves are indivisible -/

/-- A token of a range around which no pair of parentheses of the range stands. -/
structure InScope (s : Stream) (r : Range) (i : Nat) : Prop where
  start_le : r.start ≤ i
  lt_stop : i < r.stop
  outside : ∀ o j, s.kind? o = some .openParenthesis → s.partner? o = some j → r.start ≤ o →
    o < i → j < i

theorem mem_inScopeFrom_of_mem {s : Stream} {test : Kind → Bool} {stop i j : Nat}
    {found : Array Nat} (h : j ∈ found) : j ∈ s.inScopeFrom test stop i found := by
  fun_induction inScopeFrom s test stop i found with
  | case1 => exact h
  | case2 i found hlt kind hkind htest ih => exact ih (Array.mem_push_of_mem _ h)
  | case3 i found hlt kind hkind htest hskip ih => exact ih h
  | case4 => exact h

/-- The walk over a range does not jump over a token in scope. -/
theorem skip_le {s : Stream} {r : Range} {i j : Nat} (hi : r.start ≤ i) (hij : i < j)
    (h : s.InScope r j) : s.skip i ≤ j := by
  unfold skip
  split
  · rename_i hkind hpartner
    have := h.outside i _ hkind hpartner hi hij
    split <;> omega
  · omega

theorem mem_inScopeFrom_of_inScope {s : Stream} {test : Kind → Bool} {r : Range} {i j : Nat}
    {found : Array Nat} (hi : r.start ≤ i) (hij : i ≤ j) (h : s.InScope r j)
    (hj : s.holds test j = true) : j ∈ s.inScopeFrom test r.stop i found := by
  have hstop := h.lt_stop
  fun_induction inScopeFrom s test r.stop i found with
  | case1 i found hlt hnone =>
    have hsize := lt_size_of_holds hj
    simp [kind?] at hnone
    unfold size at hsize
    omega
  | case2 i found hlt kind hkind htest ih =>
    rcases Nat.eq_or_lt_of_le hij with rfl | hij
    · exact mem_inScopeFrom_of_mem Array.mem_push_self
    · exact ih (by omega) hij
  | case3 i found hlt kind hkind htest hskip ih =>
    rcases Nat.eq_or_lt_of_le hij with rfl | hij
    · obtain ⟨k, hk, hpass⟩ := holds_iff.mp hj
      rw [hkind] at hk
      cases hk
      exact absurd hpass htest
    · exact ih (by omega) (skip_le hi hij h)
  | case4 i found hlt => omega

/-- Every token in scope that passes the test is found. -/
theorem mem_inScope_of_inScope {s : Stream} {test : Kind → Bool} {r : Range} {j : Nat}
    (h : s.InScope r j) (hj : s.holds test j = true) : j ∈ s.inScope test r :=
  mem_inScopeFrom_of_inScope (Nat.le_refl _) h.start_le h hj

theorem kind?_ne_of_inScope_eq_empty {s : Stream} {kind : Kind} {r : Range}
    (h : s.inScope (· == kind) r = #[]) {i : Nat} (hi : s.InScope r i) :
    s.kind? i ≠ some kind := by
  intro hkind
  have hmem : i ∈ s.inScope (· == kind) r :=
    mem_inScope_of_inScope hi (holds_iff.mpr ⟨kind, hkind, beq_self_eq_true kind⟩)
  rw [h] at hmem
  simp at hmem

/-- A leaf begins and ends with a token that is not trivia, and has nothing at which it could be
split. -/
structure Indivisible (s : Stream) (l : Leaf) : Prop where
  start_le : l.range.start ≤ l.first
  first_le : l.first ≤ l.last
  last_lt : l.last < l.range.stop
  first_solid : s.holds isSolid l.first = true
  last_solid : s.holds isSolid l.last = true
  no_concat : ∀ i, s.InScope l.range i → s.kind? i ≠ some .concat
  no_ternary : ∀ i, s.InScope l.range i → s.kind? i ≠ some .inlineThen

theorem indivisible_of_leaf {s : Stream} {l : Leaf} (h : s.split l.range = .leaf l) :
    s.Indivisible l := by
  have hb := bounds_of_leaf h
  obtain ⟨hthen, hconcat⟩ : s.inScope (· == .inlineThen) l.range = #[] ∧
      s.inScope (· == .concat) l.range = #[] := by
    unfold split branches at h
    split at h
    · cases h
    · split at h
      · cases h
      · split at h
        · split at h <;> cases h
        · rename_i hlast
          dsimp only at h
          split at h
          · rename_i hempty
            exact ⟨Array.back?_eq_none_iff.mp hlast, Array.isEmpty_iff.mp hempty⟩
          · cases h
  exact ⟨hb.start_le, hb.first_le, hb.last_lt, hb.first_solid, hb.last_solid,
    fun _ => kind?_ne_of_inScope_eq_empty hconcat, fun _ => kind?_ne_of_inScope_eq_empty hthen⟩

/-! ## What is said about a statement -/

/-- A step says how a leaf is judged. -/
def Tells (s : Stream) (rules : RuleSet) (l : Leaf) (step : Step) : Prop :=
  match s.judge rules l with
  | .unescaped anchor => ∃ f, step = .found f ∧ f.diagnostic.token = anchor
  | verdict => step = .passed l.range verdict

theorem forall₂_leafSteps (s : Stream) (rules : RuleSet) (entry : Nat) (p : Pending)
    (leaves : List Leaf) :
    List.Forall₂ (s.Tells rules) leaves (s.leafSteps rules entry p leaves) := by
  induction leaves generalizing p with
  | nil => exact .nil
  | cons l rest ih =>
    rw [leafSteps]
    cases hjudge : s.judge rules l with
    | unescaped anchor =>
      refine .cons ?_ (ih _)
      simp only [Tells, hjudge]
      exact ⟨_, rfl, rfl⟩
    | safe => exact .cons (by simp only [Tells, hjudge]) (ih p)
    | skipped => exact .cons (by simp only [Tells, hjudge]) (ih p)

theorem outputSteps_eq {s : Stream} {rules : RuleSet} {entry : Nat}
    (hgate : ∀ comment, s.gate rules entry ≠ .suppressed comment) :
    ∃ p, s.outputSteps rules entry =
      s.leafSteps rules entry p (s.statementWalk entry).leaves ++
        if (s.statementWalk entry).cutShort then [.cutShort entry] else [] := by
  unfold outputSteps
  cases h : s.gate rules entry with
  | suppressed comment => exact absurd h (hgate comment)
  | absent => exact ⟨_, rfl⟩
  | disallowed => exact ⟨_, rfl⟩

end Stream

/-- What is said about a statement that is not exempt is said about the leaves of its tree, each of
them once, level by level and in the order of the template on each level. -/
theorem statement_visits_tree {s : Stream} {rules : RuleSet} {entry : Nat}
    (hgate : ∀ comment, s.gate rules entry ≠ .suppressed comment)
    (hlimit : Step.cutShort entry ∉ s.outputSteps rules entry) :
    let tree := s.splitTree (s.statementRange entry)
    ∃ leaves, List.Forall₂ (s.Tells rules) leaves (s.outputSteps rules entry) ∧
      leaves.Perm tree.leaves ∧ leaves.Nodup ∧
      leaves = tree.levels (s.size + 1) ∧
      (∀ depth, (tree.leavesAt depth).Pairwise fun l l' => l.range.Before l'.range) ∧
      (leaves.Pairwise fun l l' => l.range.Apart l'.range) ∧
      ∀ l ∈ leaves, entry < l.range.start ∧ l.range.stop ≤ s.statementEnd entry ∧
        s.Indivisible l := by
  intro tree
  obtain ⟨p, hsteps⟩ := Stream.outputSteps_eq hgate
  have hcut : (s.statementWalk entry).cutShort = false := by
    rw [hsteps] at hlimit
    cases hcut : (s.statementWalk entry).cutShort with
    | false => rfl
    | true => simp [hcut] at hlimit
  rw [hcut, if_neg Bool.false_ne_true, List.append_nil] at hsteps
  have hperm : (s.statementWalk entry).leaves.Perm tree.leaves := by
    rw [s.statementWalk_eq] at hcut ⊢
    simpa using Stream.perm_leaves_walkFrom hcut
  have hsorted := s.pairwise_leaves_splitTree (s.statementRange entry)
  refine ⟨(s.statementWalk entry).leaves, ?_, hperm, ?_, ?_, fun depth => ?_, ?_, fun l hl => ?_⟩
  · rw [hsteps]
    exact s.forall₂_leafSteps rules entry p _
  · refine hperm.nodup_iff.mpr (hsorted.imp_of_mem fun {l l'} hl _ hbefore heq => ?_)
    have hsolid := Stream.indivisible_of_leaf (Stream.mem_leaves_splitTree hl).1
    have := hsolid.start_le
    have := hsolid.first_le
    have := hsolid.last_lt
    rw [← heq, Range.Before] at hbefore
    omega
  · have hlength : (s.statementRange entry).length < s.size + 1 := by
      have := s.statementEnd_le_size entry
      simp only [Range.length, Stream.statementRange]
      omega
    rw [s.statementWalk_eq] at hcut ⊢
    rw [Stream.leaves_walkFrom_eq_levels hcut (List.forall_mem_singleton.mpr hlength)]
    simp [SplitTree.levels, tree]
  · exact hsorted.sublist (tree.leavesAt_sublist depth)
  · exact (hperm.pairwise_iff Or.symm).mpr (hsorted.imp .inl)
  · obtain ⟨hsplit, hstart, hstop⟩ := Stream.mem_leaves_splitTree (hperm.mem_iff.mp hl)
    exact ⟨hstart, hstop, Stream.indivisible_of_leaf hsplit⟩

/-- The third piece of a concatenation is a leaf before the insides of the first two are. -/
theorem statement_visits_tree_mixed :
    ∃ s, tokenize "<?= ($a . 'x') . ($b ? 1 : $c) . $d ?>" = .ok s ∧
      (s.outputSteps .standard 0).map (fun step => step.finding?.map fun f => f.diagnostic.token) =
        [some 26, some 3, none, none, some 21] ∧
      ∃ leaves, List.Forall₂ (s.Tells .standard) leaves (s.outputSteps .standard 0) ∧
        leaves.Perm (s.splitTree (s.statementRange 0)).leaves ∧ leaves.Nodup ∧
        leaves = (s.splitTree (s.statementRange 0)).levels (s.size + 1) := by
  obtain ⟨source, hsource⟩ : ∃ source, source = "<?= ($a . 'x') . ($b ? 1 : $c) . $d ?>" := ⟨_, rfl⟩
  rw [← hsource]
  obtain ⟨hfault, hgate, hlimit, htokens⟩ : (Lexed.ofSource source).fault = none ∧
      (Lexed.ofSource source).stream.gate .standard 0 = .absent ∧
      Step.cutShort 0 ∉ (Lexed.ofSource source).stream.outputSteps .standard 0 ∧
      ((Lexed.ofSource source).stream.outputSteps .standard 0).map
        (fun step => step.finding?.map fun f => f.diagnostic.token) =
          [some 26, some 3, none, none, some 21] := by
    rw [hsource]
    decide +kernel
  obtain ⟨leaves, hsteps, hperm, hnodup, hlevels, _⟩ :=
    statement_visits_tree (fun comment => by rw [hgate]; exact nofun) hlimit
  exact ⟨_, tokenize_of_fault_eq_none hfault, htokens, leaves, hsteps, hperm, hnodup, hlevels⟩

/-- A statement that is exempt has a leaf about which nothing is said. -/
theorem exempt_leaf_unvisited :
    ∃ s, tokenize "<?= /* @noEscape */ 1 ?>" = .ok s ∧
      Step.cutShort 0 ∉ s.outputSteps .standard 0 ∧
      ∃ l ∈ (s.splitTree (s.statementRange 0)).leaves,
        ∀ step ∈ s.outputSteps .standard 0, ¬ s.Tells .standard l step := by
  obtain ⟨source, hsource⟩ : ∃ source, source = "<?= /* @noEscape */ 1 ?>" := ⟨_, rfl⟩
  rw [← hsource]
  obtain ⟨s, hs⟩ : ∃ s, s = (Lexed.ofSource source).stream := ⟨_, rfl⟩
  obtain ⟨hfault, hleaf, hsteps, hjudge⟩ : (Lexed.ofSource source).fault = none ∧
      s.split (s.statementRange 0) = .leaf ⟨⟨1, 6⟩, 4, 4⟩ ∧
      s.outputSteps .standard 0 = [.exempt 0 "/* @noEscape */"] ∧
      s.judge .standard ⟨⟨1, 6⟩, 4, 4⟩ = .safe .constant := by
    rw [hs, hsource]
    decide +kernel
  refine ⟨s, hs ▸ tokenize_of_fault_eq_none hfault, by simp [hsteps], ⟨⟨1, 6⟩, 4, 4⟩, ?_, ?_⟩
  · rw [Stream.leaves_splitTree, hleaf]
    exact List.mem_singleton_self _
  · rw [hsteps]
    simp [Stream.Tells, hjudge]

end EscapeAudit
