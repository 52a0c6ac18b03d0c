import EscapeAudit.Path
import Mathlib.Data.List.Basic

/-!
# The order of paths, and maps by path

Paths are ordered by their components, and two paths are the same when these are.  The order is a
lawful one, because it is a lexicographic one twice over: components by rank and name, paths by
components.

A map by path is a list of entries.  It works as a map as long as its entries are in strict order
(`Sorted`), which changing an entry keeps (`Sorted.alter`).  Then a change shows at the paths that are
the same as the changed one, and nowhere else (`get?_alter`).  Where the values are lists, looking them
up under paths of different files finds everything once (`flatMap_listAt_perm`).
-/

namespace EscapeAudit

/-! ## The order of components -/

namespace Component

/-- The name of a component, empty for the others. -/
def name : Component → String
  | normal name => name
  | root | current | parent => ""

/-- Components are ordered by rank, and then by name. -/
theorem compare_eq_compareLex :
    compare = compareLex (compareOn rank) (compareOn name) := by
  funext a b
  have hnames : ∀ m n : String,
      (if m < n then Ordering.lt else if n < m then .gt else .eq) = Ord.compare m n := by
    intro m n
    show _ = compareOfLessAndEq m n
    rw [compareOfLessAndEq]
    split
    next => rfl
    next hlt =>
      split
      next hgt =>
        have hne : m ≠ n := by
          rintro rfl
          exact hlt hgt
        rw [if_neg hne]
      next hgt => rw [if_pos (String.le_antisymm (String.not_lt.mp hgt) (String.not_lt.mp hlt))]
  cases a with
  | normal m =>
    cases b with
    | normal n => exact hnames m n
    | root | current | parent => rfl
  | root | current | parent => cases b <;> rfl

theorem eq_of_rank_of_name {a b : Component} (hrank : a.rank = b.rank) (hname : a.name = b.name) :
    a = b := by
  cases a <;> cases b <;> first | rfl | exact congrArg normal hname | cases hrank

instance : Std.TransCmp compare := by
  rw [compare_eq_compareLex]
  infer_instance

instance : Std.LawfulEqCmp compare where
  compare_self := Std.ReflCmp.compare_self
  eq_of_compare := by
    intro a b h
    rw [compare_eq_compareLex, compareLex_eq_eq] at h
    exact eq_of_rank_of_name (Std.LawfulEqCmp.eq_of_compare h.1) (Std.LawfulEqCmp.eq_of_compare h.2)

theorem compareLists_eq_compareLex (as bs : List Component) :
    compareLists as bs = List.compareLex compare as bs := by
  induction as generalizing bs with
  | nil => cases bs <;> rfl
  | cons a as ih =>
    cases bs with
    | nil => rfl
    | cons b bs => rw [compareLists, ih, List.compareLex_cons_cons]

end Component

/-! ## The order of paths -/

namespace Path

theorem compare_eq_compareLex (p q : Path) :
    p.compare q = List.compareLex Component.compare p.components q.components :=
  Component.compareLists_eq_compareLex _ _

instance : Std.TransCmp compare where
  eq_swap := by
    intro p q
    rw [compare_eq_compareLex, compare_eq_compareLex]
    exact Std.OrientedCmp.eq_swap
  isLE_trans := by
    intro p q r hpq hqr
    rw [compare_eq_compareLex] at hpq hqr ⊢
    exact Std.TransCmp.isLE_trans hpq hqr

theorem same_iff {p q : Path} : p.same q = true ↔ p.components = q.components := beq_iff_eq

theorem same_refl (p : Path) : p.same p = true := same_iff.mpr rfl

theorem same_comm (p q : Path) : p.same q = q.same p := by
  rw [Bool.eq_iff_iff, same_iff, same_iff, eq_comm]

theorem same_congr {p q : Path} (h : p.same q = true) (r : Path) : p.same r = q.same r := by
  rw [same, same, same_iff.mp h]

theorem compare_eq_iff {p q : Path} : p.compare q = .eq ↔ p.same q = true := by
  rw [compare_eq_compareLex, same_iff, Std.LawfulEqCmp.compare_eq_iff_eq]

theorem not_same_of_lt {p q : Path} (h : p.compare q = .lt) : p.same q = false := by
  rw [← Bool.not_eq_true, ← compare_eq_iff, h]
  exact Ordering.noConfusion

end Path

/-! ## Maps by path -/

namespace PathMap

variable {α : Type} {m : PathMap α} {p : Path}

/-- The entries are in strict order. -/
def Sorted (m : PathMap α) : Prop := m.Pairwise fun a b => a.1.compare b.1 = .lt

theorem sorted_nil : Sorted ([] : PathMap α) := .nil

/-- A path has a value exactly when an entry has the same path. -/
theorem isSome_get?_iff : (m.get? p).isSome = true ↔ ∃ entry ∈ m, entry.1.same p = true := by
  induction m with
  | nil => simp [get?]
  | cons entry rest ih =>
    rw [get?, List.exists_mem_cons_iff]
    split
    next hsame => simp [hsame]
    next hsame => simp [hsame, ih]

theorem get?_eq_none_iff : m.get? p = none ↔ ∀ entry ∈ m, entry.1.same p = false := by
  rw [← Option.not_isSome_iff_eq_none, isSome_get?_iff]
  simp

theorem get?_eq_none_of_lt (h : ∀ entry ∈ m, p.compare entry.1 = .lt) : m.get? p = none := by
  rw [get?_eq_none_iff]
  intro entry hmem
  rw [Path.same_comm]
  exact Path.not_same_of_lt (h entry hmem)

/-- What comes before the first entry comes before all entries. -/
theorem Sorted.lt_of_mem {entry : Path × α} {rest : PathMap α} (h : Sorted (entry :: rest))
    (hlt : p.compare entry.1 = .lt) : ∀ other ∈ entry :: rest, p.compare other.1 = .lt := by
  obtain ⟨hentry, _⟩ := List.pairwise_cons.mp h
  intro other hmem
  rcases List.mem_cons.mp hmem with rfl | hmem
  · exact hlt
  · exact Std.TransCmp.lt_trans hlt (hentry other hmem)

theorem key_of_mem_alter {change : Option α → α} {entry : Path × α} (h : entry ∈ m.alter change p) :
    entry.1 = p ∨ ∃ other ∈ m, entry.1 = other.1 := by
  induction m with
  | nil =>
    rw [List.mem_singleton.mp h]
    exact .inl rfl
  | cons first rest ih =>
    rw [alter] at h
    split at h
    next =>
      rcases List.mem_cons.mp h with rfl | h
      · exact .inl rfl
      · exact .inr ⟨entry, h, rfl⟩
    next =>
      rcases List.mem_cons.mp h with rfl | h
      · exact .inr ⟨first, List.mem_cons_self, rfl⟩
      · exact .inr ⟨entry, List.mem_cons_of_mem _ h, rfl⟩
    next =>
      rcases List.mem_cons.mp h with rfl | h
      · exact .inr ⟨_, List.mem_cons_self, rfl⟩
      · rcases ih h with hp | ⟨other, hmem, hkey⟩
        · exact .inl hp
        · exact .inr ⟨other, List.mem_cons_of_mem _ hmem, hkey⟩

theorem Sorted.alter (h : Sorted m) (change : Option α → α) (p : Path) :
    Sorted (m.alter change p) := by
  induction m with
  | nil => exact List.pairwise_singleton _ _
  | cons first rest ih =>
    obtain ⟨hfirst, hrest⟩ := List.pairwise_cons.mp h
    rw [PathMap.alter]
    split
    next hlt => exact List.pairwise_cons.mpr ⟨h.lt_of_mem hlt, h⟩
    next => exact List.pairwise_cons.mpr ⟨hfirst, hrest⟩
    next hgt =>
      refine List.pairwise_cons.mpr ⟨?_, ih hrest⟩
      intro entry hmem
      rcases key_of_mem_alter hmem with hp | ⟨other, hother, hkey⟩
      · rw [hp]
        exact Std.OrientedCmp.lt_of_gt hgt
      · rw [hkey]
        exact hfirst other hother

/-- A change shows at the same paths and nowhere else. -/
theorem get?_alter (h : Sorted m) (change : Option α → α) (p q : Path) :
    (m.alter change p).get? q =
      if p.same q then some (change (m.get? p)) else m.get? q := by
  induction m with
  | nil => rfl
  | cons first rest ih =>
    obtain ⟨hfirst, hrest⟩ := List.pairwise_cons.mp h
    rw [PathMap.alter]
    split
    next hlt => rw [get?_eq_none_of_lt (h.lt_of_mem hlt), get?]
    next heq =>
      have hsame := Path.compare_eq_iff.mp heq
      rw [get?, get?, get?, Path.same_congr hsame q, Path.same_comm first.1 p, hsame]
      split
      next => rfl
      next => rfl
    next hgt =>
      have hother := Path.not_same_of_lt (Std.OrientedCmp.lt_of_gt hgt)
      rw [get?, ih hrest, get?, get?, hother]
      split
      next hq =>
        have hneither : p.same q = false := by
          rw [Path.same_comm, ← Path.same_congr hq, hother]
        rw [hneither]
        rfl
      next => rfl

/-- Entries in order belong to different files. -/
theorem Sorted.pairwise_not_same (h : Sorted m) :
    (m.map Prod.fst).Pairwise fun a b => a.same b = false := by
  rw [List.pairwise_map]
  exact h.imp Path.not_same_of_lt

/-! ## Lists by path -/

section Lists

variable {β : Type} {m : PathMap (Array β)} {p : Path}

/-- What stands at a path, which is nothing for a path without an entry. -/
def listAt (m : PathMap (Array β)) (p : Path) : List β := ((m.get? p).getD #[]).toList

theorem listAt_nil (p : Path) : listAt ([] : PathMap (Array β)) p = [] := rfl

theorem listAt_of_none (h : m.get? p = none) : m.listAt p = [] := by
  rw [listAt, h]
  rfl

theorem listAt_cons_of_same {entry : Path × Array β} (h : entry.1.same p = true) :
    listAt (entry :: m) p = entry.2.toList := by
  rw [listAt, get?, if_pos h]
  rfl

theorem listAt_cons_of_not_same {entry : Path × Array β} (h : entry.1.same p = false) :
    listAt (entry :: m) p = m.listAt p := by
  rw [listAt, get?, h]
  rfl

/-- Paths of different files that reach every entry find everything once. -/
theorem flatMap_listAt_perm {paths : List Path} (hm : m.Sorted)
    (hpaths : paths.Pairwise fun a b => a.same b = false)
    (hreach : ∀ entry ∈ m, ∃ q ∈ paths, q.same entry.1 = true) :
    (paths.flatMap m.listAt).Perm (m.flatMap fun entry => entry.2.toList) := by
  induction m with
  | nil => simp [listAt_nil]
  | cons entry rest ih =>
    obtain ⟨hentry, hrest⟩ := List.pairwise_cons.mp hm
    obtain ⟨q, hq, hsame⟩ := hreach entry List.mem_cons_self
    rw [Path.same_comm] at hsame
    -- One path finds the entry, the paths before and after it do not see it.
    obtain ⟨before, after, rfl⟩ := List.append_of_mem hq
    obtain ⟨_, hafter, hbefore⟩ := List.pairwise_append.mp hpaths
    have hleft : before.flatMap (listAt (entry :: rest)) = before.flatMap (listAt rest) := by
      refine List.flatMap_congr ?_
      intro p hp
      apply listAt_cons_of_not_same
      rw [Path.same_congr hsame, Path.same_comm]
      exact hbefore p hp q List.mem_cons_self
    have hright : after.flatMap (listAt (entry :: rest)) = after.flatMap (listAt rest) := by
      refine List.flatMap_congr ?_
      intro p hp
      apply listAt_cons_of_not_same
      rw [Path.same_congr hsame]
      exact (List.pairwise_cons.mp hafter).1 p hp
    have hnone : listAt rest q = [] := by
      apply listAt_of_none
      rw [get?_eq_none_iff]
      intro other hother
      rw [Path.same_comm, ← Path.same_congr hsame]
      exact Path.not_same_of_lt (hentry other hother)
    have hfound := ih hrest fun other hother => hreach other (List.mem_cons_of_mem _ hother)
    rw [List.flatMap_append, List.flatMap_cons, hnone, List.nil_append] at hfound
    rw [List.flatMap_append, List.flatMap_cons, List.flatMap_cons, hleft, hright,
      listAt_cons_of_same hsame]
    exact List.perm_append_comm_assoc _ _ _ |>.trans (hfound.append_left _)

end Lists

end PathMap

end EscapeAudit
