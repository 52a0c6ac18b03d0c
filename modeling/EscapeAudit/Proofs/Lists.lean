import Mathlib.Data.List.DropRight
import Mathlib.Data.List.Forall2

/-!
# Lists

Facts about lists that proofs about tokens and about characters share.
-/

namespace List

variable {α β γ : Type}

/-! ## Lists in step -/

theorem Forall₂.trans_of {R : α → β → Prop} {S : β → γ → Prop} {T : α → γ → Prop}
    (h : ∀ a b c, R a b → S b c → T a c) {xs : List α} {ys : List β} {zs : List γ}
    (hxy : Forall₂ R xs ys) (hyz : Forall₂ S ys zs) : Forall₂ T xs zs := by
  induction hxy generalizing zs with
  | nil => cases hyz; exact .nil
  | cons hab _ ih =>
    cases hyz with
    | cons hbc hrest => exact .cons (h _ _ _ hab hbc) (ih hrest)

theorem Forall₂.exists_of_mem_right {R : α → β → Prop} {xs : List α} {ys : List β}
    (h : Forall₂ R xs ys) {y : β} (hy : y ∈ ys) : ∃ x ∈ xs, R x y := by
  induction h with
  | nil => cases hy
  | cons hxy _ ih =>
    rcases mem_cons.mp hy with rfl | hy
    · exact ⟨_, mem_cons_self, hxy⟩
    · obtain ⟨x, hx, hxy⟩ := ih hy
      exact ⟨x, mem_cons_of_mem _ hx, hxy⟩

/-! ## What the members of a list give -/

/-- Where one function gives something only if another gives the same, it picks out fewer. -/
theorem filterMap_sublist_filterMap {f g : α → Option β} (h : ∀ a b, f a = some b → g a = some b)
    (xs : List α) : (xs.filterMap f).Sublist (xs.filterMap g) := by
  induction xs with
  | nil => exact .slnil
  | cons a xs ih =>
    rw [filterMap_cons, filterMap_cons]
    cases hf : f a with
    | some b =>
      rw [h a b hf]
      exact ih.cons_cons b
    | none =>
      cases g a with
      | some b => exact ih.cons b
      | none => exact ih

/-- Where all members of a list but one give nothing, that one gives all. -/
theorem flatMap_eq_of_pairwise {R : α → α → Prop} {xs : List α} {x : α} {g : α → List β}
    (h : xs.Pairwise R) (hx : x ∈ xs) (hg : ∀ y ∈ xs, R x y ∨ R y x → g y = []) :
    xs.flatMap g = g x := by
  induction xs with
  | nil => cases hx
  | cons y ys ih =>
    obtain ⟨hy, hys⟩ := pairwise_cons.mp h
    rw [flatMap_cons]
    rcases mem_cons.mp hx with rfl | hx
    · have hnil : ys.flatMap g = [] := flatMap_eq_nil_iff.mpr fun z hz =>
        hg z (by simp [hz]) (.inl (hy z hz))
      rw [hnil, append_nil]
    · rw [hg y (by simp) (.inr (hy x hx)), nil_append]
      exact ih hys hx fun z hz => hg z (by simp [hz])

/-! ## Beginnings and endings -/

end List
