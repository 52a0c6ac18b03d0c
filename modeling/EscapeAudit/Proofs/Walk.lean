import EscapeAudit.Proofs.Coverage
import EscapeAudit.Proofs.Lists

/-!
# The leaves of a walk

The walk over a statement takes ranges from a queue and puts what they are split into behind the
others.  It is a recursion over the list of ranges that wait (`walk_eq_walkFrom`).  Each leaf that it
finds is below a range that waited at the beginning (`under_of_mem_leaves`), and a walk that is not
cut short finds all of them (`mem_leaves_of_under`).  Leaves of ranges that stand apart stand apart
(`pairwise_leaves`).

Two walks over ranges that are split into the same trees find the same leaves, one by one
(`forall₂_leaves`).
-/

namespace EscapeAudit

/-- One range ends before the other begins. -/
def Range.Before (r r' : Range) : Prop := r.stop ≤ r'.start

/-- No token is in both ranges. -/
def Range.Apart (r r' : Range) : Prop := r.Before r' ∨ r'.Before r

/-- No token is in both leaves, blanks and comments around them apart. -/
def Leaf.Apart (l l' : Leaf) : Prop := l.last < l'.first ∨ l'.last < l.first

instance : Std.Symm Leaf.Apart := ⟨fun _ _ h => h.symm⟩

namespace Stream

/-! ## Walking over a list -/

/-- Splits the ranges of a list, and the ranges that come out of them, but at most `budget`
ranges. -/
def walkFrom (s : Stream) : (budget : Nat) → List Range → Walk
  | _, [] => ⟨[], false⟩
  | 0, _ :: _ => ⟨[], true⟩
  | budget + 1, r :: rs =>
    let w := s.walkFrom budget (rs ++ (s.split r).children)
    ⟨s.split r :: w.splits, w.cutShort⟩

theorem walk_eq_walkFrom (s : Stream) (budget : Nat) (queue : Queue Range) :
    s.walk budget queue = s.walkFrom budget queue.toList := by
  induction budget generalizing queue with
  | zero =>
    unfold walk
    cases hpop : queue.pop? with
    | none =>
      rw [(Queue.pop?_eq_none_iff queue).mp hpop]
      rfl
    | some popped =>
      rw [Queue.toList_of_pop? hpop]
      rfl
  | succ budget ih =>
    unfold walk
    cases hpop : queue.pop? with
    | none =>
      rw [(Queue.pop?_eq_none_iff queue).mp hpop]
      rfl
    | some popped =>
      rw [Queue.toList_of_pop? hpop, walkFrom, ← Queue.toList_pushAll, ← ih]

theorem statementWalk_eq (s : Stream) (entry : Nat) :
    s.statementWalk entry = s.walkFrom Limits.rangesPerStatement [s.statementRange entry] :=
  s.walk_eq_walkFrom _ _

theorem leaves_walkFrom_cons (s : Stream) (budget : Nat) (r : Range) (rs : List Range) :
    (s.walkFrom (budget + 1) (r :: rs)).leaves =
      (s.split r).leaf?.toList ++ (s.walkFrom budget (rs ++ (s.split r).children)).leaves := by
  rw [walkFrom, Walk.leaves, List.filterMap_cons]
  cases (s.split r).leaf? <;> rfl

theorem Split.leaf?_eq_some_iff {outcome : Split} {l : Leaf} :
    outcome.leaf? = some l ↔ outcome = .leaf l := by
  cases outcome <;> simp [Split.leaf?]

/-! ## Every leaf is below a range -/

theorem under_of_mem_leaves {s : Stream} {budget : Nat} {rs : List Range} {l : Leaf}
    (h : l ∈ (s.walkFrom budget rs).leaves) : ∃ r ∈ rs, s.Under r l := by
  induction budget generalizing rs with
  | zero => cases rs <;> cases h
  | succ budget ih =>
    cases rs with
    | nil => cases h
    | cons r rs =>
      rw [leaves_walkFrom_cons, List.mem_append, Option.mem_toList] at h
      rcases h with h | h
      · exact ⟨r, by simp, .leaf (Split.leaf?_eq_some_iff.mp h)⟩
      · obtain ⟨c, hc, hl⟩ := ih h
        rcases List.mem_append.mp hc with hc | hc
        · exact ⟨c, by simp [hc], hl⟩
        · exact ⟨r, by simp, .child hc hl⟩

theorem under_statementRange {s : Stream} {e : Nat} {l : Leaf}
    (h : l ∈ (s.statementWalk e).leaves) : s.Under (s.statementRange e) l := by
  rw [statementWalk_eq] at h
  obtain ⟨r, hr, hunder⟩ := under_of_mem_leaves h
  rwa [List.mem_singleton.mp hr] at hunder

/-- A walk that is not cut short finds every leaf. -/
theorem mem_leaves_of_under {s : Stream} {budget : Nat} {rs : List Range} {r : Range} {l : Leaf}
    (hcut : (s.walkFrom budget rs).cutShort = false) (hr : r ∈ rs) (h : s.Under r l) :
    l ∈ (s.walkFrom budget rs).leaves := by
  induction budget generalizing rs r with
  | zero =>
    cases rs with
    | nil => cases hr
    | cons => cases hcut
  | succ budget ih =>
    cases rs with
    | nil => cases hr
    | cons r₀ rs =>
      rw [leaves_walkFrom_cons, List.mem_append, Option.mem_toList]
      rcases List.mem_cons.mp hr with rfl | hr
      · cases h with
        | leaf h => exact .inl (Split.leaf?_eq_some_iff.mpr h)
        | child hc h => exact .inr (ih hcut (List.mem_append_right rs hc) h)
      · exact .inr (ih hcut (List.mem_append_left _ hr) h)

/-! ## Leaves stand apart -/

theorem pairwise_inScopeFrom {s : Stream} {test : Kind → Bool} {stop i : Nat} {found : Array Nat}
    (hfound : ∀ j ∈ found, j < i) (h : found.toList.Pairwise (· < ·)) :
    (s.inScopeFrom test stop i found).toList.Pairwise (· < ·) := by
  fun_induction inScopeFrom s test stop i found with
  | case1 => exact h
  | case2 i found hlt kind hkind htest ih =>
    refine ih (fun j hj => ?_) ?_
    · rcases Array.mem_push.mp hj with hj | rfl
      · have := hfound j hj
        omega
      · omega
    · rw [Array.toList_push, List.pairwise_append]
      refine ⟨h, List.pairwise_singleton _ _, fun j hj k hk => ?_⟩
      rw [List.mem_singleton.mp hk]
      exact hfound j (by simpa using hj)
  | case3 i found hlt kind hkind htest hskip ih =>
    refine ih (fun j hj => ?_) h
    have := hfound j hj
    omega
  | case4 => exact h

theorem pairwise_inScope (s : Stream) (test : Kind → Bool) (r : Range) :
    (s.inScope test r).toList.Pairwise (· < ·) :=
  pairwise_inScopeFrom (by simp) (by simp)

theorem pairwise_pieces {start stop : Nat} {cuts : List Nat} (h : cuts.Pairwise (· < ·))
    (hstop : ∀ c ∈ cuts, c < stop) : (Range.pieces start stop cuts).Pairwise Range.Before := by
  induction cuts generalizing start with
  | nil => exact List.pairwise_singleton _ _
  | cons c cuts ih =>
    obtain ⟨hc, hcuts⟩ := List.pairwise_cons.mp h
    refine List.pairwise_cons.mpr ⟨fun p hp => ?_, ih hcuts fun d hd => hstop d (by simp [hd])⟩
    unfold Range.Before
    rcases (Range.mem_pieces hp).1 with hp | ⟨d, hd, hp⟩
    · dsimp only
      omega
    · have := hc d hd
      dsimp only
      omega

/-- A range is split into ranges in the order of the template. -/
theorem pairwise_children (s : Stream) (r : Range) :
    (s.split r).children.Pairwise Range.Before := by
  rcases split_cases s r with hsplit | ⟨first, last, _, _, hsplit⟩ |
    ⟨then_, else_, _, _, hsplit⟩ | hsplit | ⟨first, last, _, hsplit⟩
  all_goals rw [hsplit]
  · exact .nil
  · exact List.pairwise_singleton _ _
  · refine List.pairwise_cons.mpr ⟨fun p hp => ?_, List.pairwise_singleton _ _⟩
    rw [List.mem_singleton.mp hp]
    exact Nat.le_succ else_
  · rw [Range.cutAt_eq_pieces]
    exact pairwise_pieces (s.pairwise_inScope _ r) fun c hc => (mem_inScope (by simpa using hc)).2.1
  · exact .nil

/-- Leaves of ranges that stand apart stand apart. -/
theorem pairwise_leaves {s : Stream} {budget : Nat} {rs : List Range}
    (h : rs.Pairwise Range.Apart) : (s.walkFrom budget rs).leaves.Pairwise Leaf.Apart := by
  induction budget generalizing rs with
  | zero => cases rs <;> exact .nil
  | succ budget ih =>
    cases rs with
    | nil => exact .nil
    | cons r rs =>
      obtain ⟨hr, hrs⟩ := List.pairwise_cons.mp h
      rw [leaves_walkFrom_cons]
      have hrest : (rs ++ (s.split r).children).Pairwise Range.Apart := by
        refine List.pairwise_append.mpr
          ⟨hrs, (s.pairwise_children r).imp .inl, fun p hp c hc => ?_⟩
        obtain ⟨hstart, hstop⟩ := children_within hc
        rcases hr p hp with hbefore | hbefore
        · exact .inr (Nat.le_trans hstop hbefore)
        · exact .inl (Nat.le_trans hbefore hstart)
      cases hleaf : (s.split r).leaf? with
      | none => exact ih hrest
      | some l =>
        refine List.pairwise_cons.mpr ⟨fun m hm => ?_, ih hrest⟩
        rw [Split.leaf?_eq_some_iff] at hleaf
        rw [hleaf, Split.children, List.append_nil] at hm
        obtain ⟨p, hp, hunder⟩ := under_of_mem_leaves hm
        obtain ⟨hstart, hstop⟩ := hunder.within
        obtain ⟨hstart', hstop'⟩ := (Under.leaf hleaf).within
        rcases hr p hp with hbefore | hbefore <;> unfold Range.Before at hbefore
        · exact .inl (by omega)
        · exact .inr (by omega)

/-! ## Two walks -/

theorem SameTree.split_related {s s' : Stream} {settles : Leaf → Leaf → Prop} {r r' : Range}
    (h : SameTree s s' settles r r') :
    List.Forall₂ (SameTree s s' settles) (s.split r).children (s'.split r').children ∧
      List.Forall₂ settles (s.split r).leaf?.toList (s'.split r').leaf?.toList := by
  cases h with
  | skip hs hs' =>
    rw [hs, hs']
    exact ⟨.nil, .nil⟩
  | unwrapped hs hs' hinner =>
    rw [hs, hs']
    exact ⟨.cons hinner .nil, .nil⟩
  | pieces hs hs' hpieces =>
    rw [hs, hs']
    exact ⟨hpieces, .nil⟩
  | leaf hs hs' hleaf =>
    rw [hs, hs']
    exact ⟨.nil, .cons hleaf .nil⟩

/-- What is known of two leaves can be changed for what follows from it. -/
theorem SameTree.mono {s s' : Stream} {settles settles' : Leaf → Leaf → Prop} {r r' : Range}
    (h : SameTree s s' settles r r')
    (himp : ∀ l l', s.Under r l → settles l l' → settles' l l') : SameTree s s' settles' r r' := by
  -- The pieces of a range go along with it in one induction.
  refine @SameTree.rec s s' settles
    (fun r r' _ => (∀ l l', s.Under r l → settles l l' → settles' l l') →
      SameTree s s' settles' r r')
    (fun ps ps' _ => (∀ p ∈ ps, ∀ l l', s.Under p l → settles l l' → settles' l l') →
      List.Forall₂ (SameTree s s' settles') ps ps')
    ?_ ?_ ?_ ?_ ?_ ?_ r r' h himp
  · intro r r' hs hs' _
    exact .skip hs hs'
  · intro r r' i i' hs hs' _ ih himp
    refine .unwrapped hs hs' (ih fun l l' hl => himp l l' (.child ?_ hl))
    simp [hs, Split.children]
  · intro r r' ps ps' hs hs' _ ih himp
    refine .pieces hs hs' (ih fun p hp l l' hl => himp l l' (.child ?_ hl))
    simpa [hs, Split.children] using hp
  · intro r r' l l' hs hs' hsettles himp
    exact .leaf hs hs' (himp l l' (.leaf hs) hsettles)
  · intro _
    exact .nil
  · intro p p' ps ps' _ _ ihp ihps himp
    exact .cons (ihp (himp p (by simp))) (ihps fun q hq => himp q (by simp [hq]))

/-- Walks over ranges with the same trees find the same leaves. -/
theorem forall₂_leaves {s s' : Stream} {settles : Leaf → Leaf → Prop} {budget : Nat}
    {rs rs' : List Range} (h : List.Forall₂ (SameTree s s' settles) rs rs') :
    List.Forall₂ settles (s.walkFrom budget rs).leaves (s'.walkFrom budget rs').leaves ∧
      (s.walkFrom budget rs).cutShort = (s'.walkFrom budget rs').cutShort := by
  induction budget generalizing rs rs' with
  | zero => cases h <;> exact ⟨.nil, rfl⟩
  | succ budget ih =>
    cases h with
    | nil => exact ⟨.nil, rfl⟩
    | @cons r r' rs rs' hr hrs =>
      obtain ⟨hchildren, hleaf⟩ := hr.split_related
      obtain ⟨hrest, hcut⟩ := ih (List.rel_append hrs hchildren)
      refine ⟨?_, hcut⟩
      rw [leaves_walkFrom_cons, leaves_walkFrom_cons]
      exact List.rel_append hleaf hrest

/-- Every leaf of a statement that is split like another one comes from a leaf there. -/
theorem SameTree.exists_leaf {s s' : Stream} {settles : Leaf → Leaf → Prop} {e e' : Nat}
    (h : SameTree s s' settles (s.statementRange e) (s'.statementRange e')) {l' : Leaf}
    (hl' : l' ∈ (s'.statementWalk e').leaves) : ∃ l ∈ (s.statementWalk e).leaves, settles l l' := by
  rw [statementWalk_eq] at hl' ⊢
  exact (forall₂_leaves (.cons h .nil)).1.exists_of_mem_right hl'

end Stream

end EscapeAudit
